import Activation.Proofs.Environment.Query
import Activation.Proofs.Prefilter
import Activation.Proofs.Resolution.Places
import Activation.Proofs.Verdict

/-!
# The mode of the pre-filter cannot be seen

Work that is done item by item may be cut in two, by one worker or by two, and the
answers are the same (`Machine.workOut_itemwise`).  So the slots of the pre-filter do not
depend on the mode of the settings or on the machine, and nothing after the pre-filter
looks at either (`Engine.resolve_withMode`).

The mode may also come from a property, and properties are there for the conditions too.
Environments that differ in one property only (`Environment.AgreeExcept`) give the same
settings, the mode apart, and the same outcomes of all rules that do not ask for that
property (`Rule.keys`).  A rule that asks for the property of the mode does see it, as
`Engine.mode_seen_by_rule` shows.

* `Engine.resolve_env_congr`: a pass in two environments that differ in the mode only.
* `Engine.resolve_mode_irrelevant`: the mode cannot be seen, such rules apart.
-/

namespace Activation

/-! ## Working in two halves -/

/-- **Work done item by item**, in one go or in two halves, gives one answer for each item,
in the same places. -/
theorem Machine.workOut_itemwise {α β : Type} {answer : List α → List β} {f : α → β}
    (itemwise : ∀ items, answer items = items.map f) (machine : Machine) (mode : PrefilterMode)
    (items : List α) : machine.workOut mode answer items = items.map f := by
  have hanswer : answer = List.map f := funext itemwise
  rw [hanswer, workOut_map]

/-! ## Environments that differ in one property -/

namespace Environment

/-- **Two environments agree on every key but one.** -/
def AgreeExcept (key : String) (first second : Environment) : Prop :=
  ∀ other, other ≠ key → first.get? other = second.get? other

/-- **Two environments agree on some keys.** -/
def AgreeOn (keys : List String) (first second : Environment) : Prop :=
  ∀ key ∈ keys, first.get? key = second.get? key

variable {key other : String} {first second : Environment}

theorem AgreeExcept.agreeOn {keys : List String} (h : AgreeExcept key first second)
    (hkey : key ∉ keys) : AgreeOn keys first second :=
  fun other ho => h other (ne_of_mem_of_not_mem ho hkey)

theorem AgreeExcept.items (h : AgreeExcept key first second) (hne : other ≠ key) :
    first.items other = second.items other := by
  rw [Environment.items, Environment.items, h other hne]

theorem AgreeExcept.flag? (h : AgreeExcept key first second) (hne : other ≠ key) :
    first.flag? other = second.flag? other := by
  rw [Environment.flag?, Environment.flag?, h other hne]

end Environment

/-- The settings in two environments that differ in the mode only. -/
theorem Settings.overriddenBy_congr {first second : Environment}
    (h : first.AgreeExcept modeProperty second) (settings : Settings) :
    settings.overriddenBy first =
      { settings.overriddenBy second with mode := (settings.overriddenBy first).mode } := by
  have hcapability := h capabilityProperty (by decide)
  have hpolicy := h policyProperty (by decide)
  have henabled := h.flag? (show enabledProperty ≠ modeProperty by decide)
  simp only [overriddenBy, hcapability, hpolicy, henabled]

namespace Rule

/-- The properties that a rule asks for. -/
def keys : Rule → List String
  | requiresProperties query => query.names.map query.key
  | _ => []

/-- **A rule sees only the properties that it asks for.** -/
theorem evaluate_congr {first second : Environment} {rule : Rule}
    (h : first.AgreeOn rule.keys second) (oracle : Oracle) (registry : Registry) :
    rule.evaluate ⟨oracle, registry, first⟩ = rule.evaluate ⟨oracle, registry, second⟩ := by
  cases rule with
  | requiresProperties query =>
    have hget : ∀ name ∈ query.names,
        first.get? (query.key name) = second.get? (query.key name) :=
      fun name hn => h _ (List.mem_map_of_mem hn)
    have hmissing : query.missing first = query.missing second := by
      refine List.filter_congr fun name hn => ?_
      rw [hget name hn]
    have hdifferent : query.different first = query.different second := by
      refine List.filter_congr fun name hn => ?_
      rw [hget name hn]
    rw [evaluate, evaluate, PropertyQuery.evaluate, PropertyQuery.evaluate, hmissing, hdifferent]
  | _ => rfl

end Rule

/-! ## Verdicts and decisions -/

section Congruence

variable {first second : Environment}

theorem Verdict.ofUnit_congr {rules : List Rule}
    (h : ∀ rule ∈ rules, first.AgreeOn rule.keys second)
    (unit : UnitName) (oracle : Oracle) (registry : Registry) :
    ofUnit unit rules ⟨oracle, registry, first⟩ = ofUnit unit rules ⟨oracle, registry, second⟩ := by
  have hrules : ofRules ⟨oracle, registry, first⟩ rules =
      ofRules ⟨oracle, registry, second⟩ rules := by
    rw [ofRules, ofRules]
    congr 1
    refine List.map_congr_left fun group hg => List.map_congr_left fun rule hr => ?_
    -- a rule of a group is one of the rules
    obtain ⟨kind, -, rfl⟩ := List.mem_map.mp hg
    exact Rule.evaluate_congr (h rule (List.mem_filter.mp hr).1) oracle registry
  rw [ofUnit, ofUnit, hrules]

theorem Decision.ofDefinition_congr {definition : Option Definition}
    (h : ∀ d ∈ definition, ∀ rule ∈ d.rules, first.AgreeOn rule.keys second) (unit : UnitName)
    (oracle : Oracle) (registry : Registry) :
    ofDefinition ⟨oracle, registry, first⟩ unit definition =
      ofDefinition ⟨oracle, registry, second⟩ unit definition := by
  cases definition with
  | none => rfl
  | some definition =>
    rw [ofDefinition, ofDefinition,
      Verdict.ofUnit_congr (h definition rfl) unit oracle registry]

/-- **An evaluation** sees only the properties that the rules of its units ask for. -/
theorem Decision.forEach_congr {σ : Type} (host : Host σ) (oracle : Oracle) {catalog : Catalog}
    {units : List UnitName}
    (h : ∀ unit ∈ units, ∀ d ∈ catalog[unit]?, ∀ rule ∈ d.rules,
      first.AgreeOn rule.keys second) (state : σ) :
    forEach host oracle catalog first state units =
      forEach host oracle catalog second state units := by
  induction units generalizing state with
  | nil => rfl
  | cons unit units ih =>
    have hunit := ofDefinition_congr (h unit List.mem_cons_self) unit oracle
      (host.registry state)
    have hunits := ih fun other ho => h other (List.mem_cons_of_mem unit ho)
    rw [forEach, forEach, Host.context, Host.context, hunit]
    simp only [hunits]

end Congruence

namespace Engine

variable {σ : Type} (engine : Engine) (host : Host σ) (request : Request) (state : σ)

/-! ## A pass under another mode -/

/-- An engine whose settings have another mode, on another machine. -/
def withMode (machine : Machine) (mode : PrefilterMode) : Engine :=
  { engine with machine, settings := { engine.settings with mode } }

/-- **The slots after the pre-filter** do not depend on the mode or on the machine. -/
theorem prefilter_congr (machine : Machine) (initial settings settings' : Settings)
    (candidates : List UnitName) :
    prefilter { engine with machine, settings := initial } settings' candidates =
      engine.prefilter settings candidates := by
  have hagainst (unit : UnitName) :
      (engine.chain settings').against? engine.index engine.oracle unit =
        (engine.chain settings).against? engine.index engine.oracle unit := by
    rw [chain, chain]
    cases engine.filters with
    | none => rfl
    | some chain => rfl
  rw [prefilter, prefilter, FilterChain.apply_eq_map, FilterChain.apply_eq_map]
  refine List.map_congr_left fun unit _ => ?_
  exact congrArg (Slot.mk unit) (hagainst unit)

/-- The units that survive the pre-filter are among the candidates of the pass. -/
theorem survivors_prefilter_subset (settings : Settings) (candidates exclusions : List UnitName) :
    FilterChain.survivors (engine.prefilter settings
      (Exclusion.kept (Exclusion.distinct candidates) exclusions)) ⊆ candidates := by
  intro unit h
  rw [prefilter, FilterChain.survivors_apply] at h
  have hkept := (List.mem_filter.mp h).1
  exact List.mem_eraseDups.mp (List.mem_filter.mp hkept).1

/-- **Two passes are the same** if their settings are, the mode apart, and if they collect
the same exclusions and evaluate candidates in the same way. -/
theorem resolve_congr (machine : Machine) {settings : Settings} {env : Environment}
    (hsettings : settings.overriddenBy env =
      { engine.settingsIn request.env with mode := (settings.overriddenBy env).mode })
    (hcollect : Exclusion.collect request.exclude request.excludeNames env = request.exclusions)
    (hrun : ∀ units ⊆ request.candidates,
      Decision.forEach host engine.oracle engine.catalog env state units =
        Decision.forEach host engine.oracle engine.catalog request.env state units) :
    resolve { engine with machine, settings } host { request with env } state =
      engine.resolve host request state := by
  have hdistinct (exclusions : List UnitName) :
      resolveDistinct { engine with machine, settings } host (settings.overriddenBy env) env
          (Exclusion.distinct request.candidates) exclusions state =
        engine.resolveDistinct host (engine.settingsIn request.env) request.env
          (Exclusion.distinct request.candidates) exclusions state := by
    rw [resolveDistinct, resolveDistinct, prefilter_congr engine machine settings
      (engine.settingsIn request.env) (settings.overriddenBy env)]
    simp only [hrun _ (survivors_prefilter_subset engine _ _ _)]
  have henabled : (settings.overriddenBy env).enabled =
      (engine.settingsIn request.env).enabled := by
    rw [hsettings]
  have hpolicy : (settings.overriddenBy env).policy = (engine.settingsIn request.env).policy := by
    rw [hsettings]
  rw [Request.exclusions] at hcollect
  dsimp only [resolve]
  rw [settingsIn, hcollect, henabled, hpolicy, hdistinct]

/-- **The mode set in the configuration cannot be seen.** -/
theorem resolve_withMode (machine : Machine) (mode : PrefilterMode) :
    (engine.withMode machine mode).resolve host request state =
      engine.resolve host request state := by
  refine resolve_congr engine host request state machine ?_ ?_ ?_
  · rfl
  · rfl
  · exact fun _ _ => rfl

/-- **A pass in two environments that differ in the mode only** is the same, unless a rule
asks for the property of the mode. -/
theorem resolve_env_congr {env : Environment}
    (h : env.AgreeExcept Settings.modeProperty request.env)
    (hkeys : ∀ unit ∈ request.candidates, ∀ d ∈ engine.catalog[unit]?, ∀ rule ∈ d.rules,
      Settings.modeProperty ∉ rule.keys) :
    engine.resolve host { request with env } state = engine.resolve host request state := by
  have hcollect : Exclusion.collect request.exclude request.excludeNames env =
      request.exclusions := by
    rw [Request.exclusions, Exclusion.collect, Exclusion.collect, h.items (by decide)]
  refine resolve_congr engine host request state engine.machine
    (Settings.overriddenBy_congr h engine.settings) hcollect fun units hsub => ?_
  exact Decision.forEach_congr host engine.oracle
    (fun unit hu d hd rule hr => h.agreeOn (hkeys unit (hsub hu) d hd rule hr)) state

/-- **The mode of the pre-filter cannot be seen.**  Work that answers each slot from that
slot alone gives the same list of outcomes in every mode and on every machine, one for each
slot and in its place.  So a pass with any host finds out the same, and leaves the host in
the same state, whatever mode is set in the configuration and whatever the machine offers;
and also whatever mode a property of the environment sets, as long as no candidate is
defined with a rule that asks for that very property. -/
theorem resolve_mode_irrelevant :
    (∀ (answer : List (Option UnitName) → List (Option Outcome))
        (f : Option UnitName → Option Outcome), (∀ slots, answer slots = slots.map f) →
      ∀ (machine machine' : Machine) (mode mode' : PrefilterMode) (slots : List (Option UnitName)),
        machine.workOut mode answer slots = machine'.workOut mode' answer slots ∧
        (machine.workOut mode answer slots).length = slots.length ∧
        ∀ place : Nat, (machine.workOut mode answer slots)[place]? = slots[place]?.map f) ∧
    ∀ {σ : Type} (engine : Engine) (host : Host σ) (request : Request) (state : σ),
      (∀ machine mode, (engine.withMode machine mode).resolve host request state =
        engine.resolve host request state) ∧
      ∀ env : Environment, env.AgreeExcept Settings.modeProperty request.env →
        (∀ unit ∈ request.candidates, ∀ definition ∈ engine.catalog[unit]?,
          ∀ rule ∈ definition.rules, Settings.modeProperty ∉ rule.keys) →
        engine.resolve host { request with env } state = engine.resolve host request state := by
  refine ⟨?_, ?_⟩
  · intro answer f itemwise machine machine' mode mode' slots
    rw [Machine.workOut_itemwise itemwise machine, Machine.workOut_itemwise itemwise machine']
    exact ⟨rfl, List.length_map f, fun place => List.getElem?_map⟩
  · intro σ engine host request state
    refine ⟨fun machine mode => resolve_withMode engine host request state machine mode, ?_⟩
    exact fun env h hkeys => resolve_env_congr engine host request state h hkeys

/-- A query for a property that should have the value `serial`. -/
def tuningQuery (key : String) : PropertyQuery where
  names := [key]
  expected := "serial"

/-- An engine with one unit, to be accepted if a property has the value `serial`. -/
def askingEngine (key : String) : Engine where
  oracle _ := false
  catalog := .ofDefinitions [{ name := "tuned", rules := [.requiresProperties (tuningQuery key)] }]

/-- Properties that set the mode, and a property of its own to `serial`. -/
def tunedEnvironment (mode : PrefilterMode) : Environment where
  sources := [.ofPairs "overrides" [(Settings.modeProperty, mode.word), ("tuning", "serial")]]

/-- A request under these properties. -/
def tunedRequest (mode : PrefilterMode) : Request where
  candidates := ["tuned"]
  env := tunedEnvironment mode

theorem tunedEnvironment_agreeExcept (mode mode' : PrefilterMode) :
    (tunedEnvironment mode).AgreeExcept Settings.modeProperty (tunedEnvironment mode') := by
  intro key hne
  simp [tunedEnvironment, Environment.get?, PropertySource.get?, PropertySource.ofPairs,
    Std.ExtTreeMap.ofList_cons, Std.ExtTreeMap.getElem?_insert, hne.symm]

theorem survivors_tunedRequest (key : String) (mode : PrefilterMode) :
    (askingEngine key).survivors (tunedRequest mode) = ["tuned"] := by
  show (askingEngine "").survivors (tunedRequest mode) = ["tuned"]
  cases mode <;> decide

theorem askingEngine_catalog (key : String) : (askingEngine key).catalog["tuned"]? =
    some { name := "tuned", rules := [.requiresProperties (tuningQuery key)] } := by
  cbv

/-- The unit is accepted if its property has the value. -/
theorem acceptedIn_tunedRequest (key : String) (mode : PrefilterMode) :
    acceptedIn ((askingEngine key).decisions .silent (tunedRequest mode) {}) =
      if ((tuningQuery key).missing (tunedRequest mode).env).isEmpty &&
          ((tuningQuery key).different (tunedRequest mode).env).isEmpty
        then ["tuned"] else [] := by
  have haccepted : (Decision.given ⟨(askingEngine key).oracle, {}, (tunedRequest mode).env⟩
      (askingEngine key).catalog["tuned"]?).isAccepted =
        (((tuningQuery key).missing (tunedRequest mode).env).isEmpty &&
          ((tuningQuery key).different (tunedRequest mode).env).isEmpty) := by
    rw [askingEngine_catalog, ← PropertyQuery.matched_evaluate]
    exact Verdict.matched_ofRules_singleton _ _
  rw [decisions, survivors_tunedRequest, decide, Decision.run_silent, List.map_singleton,
    acceptedIn, List.filter_singleton, ← haccepted]
  cases Decision.isAccepted _ with
  | false => rfl
  | true => rfl

/-- A pass of the asking engine succeeds. -/
theorem askingEngine_completes {key : String} (hkey : Text.isBlankText key = false)
    (mode : PrefilterMode) : ∃ resolution final,
      (askingEngine key).Completes .silent (tunedRequest mode) {} resolution final := by
  have henabled : ((askingEngine key).settingsIn (tunedRequest mode).env).enabled = true := by
    show ((askingEngine "").settingsIn (tunedRequest mode).env).enabled = true
    cases mode <;> decide
  have hvalid : (askingEngine key).invalid (tunedRequest mode) = [] :=
    invalid_of_unrestricted (by cases mode <;> decide)
  have hsound : (askingEngine key).fault? (tunedRequest mode) = none := by
    rw [fault?, survivors_tunedRequest, List.findSome?_singleton, Decision.fault?,
      askingEngine_catalog]
    simp [Rule.malformed?, Rule.fault?, Rule.propertyFault?, tuningQuery, hkey]
  have hread : ∃ order, Hints.read (askingEngine key).index (askingEngine key).catalog "tuned" =
      .ok { order } := ⟨0, by cbv⟩
  have harranged : ∃ order, Order.arrange (askingEngine key).index (askingEngine key).catalog
      (acceptedIn ((askingEngine key).decisions .silent (tunedRequest mode) {})) = .ok order := by
    refine Order.exists_arrange_of_unrelated fun unit hu => ?_
    have hsub := (acceptedIn_sublist _).subset hu
    rw [map_fst_decisions, survivors_tunedRequest, List.mem_singleton] at hsub
    rw [hsub]
    exact hread
  obtain ⟨resolution, h⟩ := Completes.exists_of_arrange (askingEngine key) Host.silent
    (tunedRequest mode) {} henabled hvalid hsound harranged
  exact ⟨resolution, _, h⟩

/-- **A rule that asks for the mode sees it.**  Two environments that differ in the mode
only, and a unit that one pass accepts and the other does not. -/
theorem mode_seen_by_rule :
    (tunedEnvironment .serial).AgreeExcept Settings.modeProperty (tunedEnvironment .parallel) ∧
    ((askingEngine Settings.modeProperty).settingsIn (tunedEnvironment .serial)).mode = .serial ∧
    ((askingEngine Settings.modeProperty).settingsIn (tunedEnvironment .parallel)).mode =
      .parallel ∧
    ∃ first second,
      ((askingEngine Settings.modeProperty).resolve .silent (tunedRequest .serial) {}).1 =
        .ok first ∧
      ((askingEngine Settings.modeProperty).resolve .silent
        { tunedRequest .serial with env := tunedEnvironment .parallel } {}).1 = .ok second ∧
      "tuned" ∈ first.accepted ∧ "tuned" ∉ second.accepted := by
  have hkey : Text.isBlankText Settings.modeProperty = false := by decide
  obtain ⟨first, _, hfirst⟩ := askingEngine_completes hkey .serial
  obtain ⟨second, _, hsecond⟩ := askingEngine_completes hkey .parallel
  refine ⟨tunedEnvironment_agreeExcept _ _, by decide, by decide, first, second,
    congrArg Prod.fst (resolve_eq_ok_iff.mpr hfirst).1,
    congrArg Prod.fst (resolve_eq_ok_iff.mpr hsecond).1, ?_, ?_⟩
  · have hall : ((tuningQuery Settings.modeProperty).missing (tunedRequest .serial).env).isEmpty &&
        ((tuningQuery Settings.modeProperty).different (tunedRequest .serial).env).isEmpty := by
      decide
    rw [hfirst.isTopological.mem_iff, acceptedIn_tunedRequest, if_pos hall]
    exact List.mem_singleton_self _
  · have hnone : (((tuningQuery Settings.modeProperty).missing
        (tunedRequest .parallel).env).isEmpty && ((tuningQuery Settings.modeProperty).different
          (tunedRequest .parallel).env).isEmpty) = false := by
      decide
    rw [hsecond.isTopological.mem_iff, acceptedIn_tunedRequest, hnone]
    exact List.not_mem_nil

/-- A rule that asks for another property does not see the mode, and three slots are
answered alike by two workers and by one. -/
theorem resolve_mode_irrelevant_tuning :
    (tunedEnvironment .serial).AgreeExcept Settings.modeProperty (tunedRequest .parallel).env ∧
    (∀ unit ∈ (tunedRequest .parallel).candidates,
      ∀ definition ∈ (askingEngine "tuning").catalog[unit]?, ∀ rule ∈ definition.rules,
        Settings.modeProperty ∉ rule.keys) ∧
    (askingEngine "tuning").resolve .silent
        { tunedRequest .parallel with env := tunedEnvironment .serial } {} =
      (askingEngine "tuning").resolve .silent (tunedRequest .parallel) {} ∧
    Machine.workOut { processors := 4 } .auto
        (List.map fun slot => slot.bind (Filter.webStack.outcome? {} fun _ => false))
        [some "shop", none, some "store"] =
      Machine.workOut { hasWorker := false } .parallel
        (List.map fun slot => slot.bind (Filter.webStack.outcome? {} fun _ => false))
        [some "shop", none, some "store"] := by
  have hagree : (tunedEnvironment .serial).AgreeExcept Settings.modeProperty
      (tunedRequest .parallel).env := tunedEnvironment_agreeExcept .serial .parallel
  have hkeys : ∀ unit ∈ (tunedRequest .parallel).candidates,
      ∀ definition ∈ (askingEngine "tuning").catalog[unit]?, ∀ rule ∈ definition.rules,
        Settings.modeProperty ∉ rule.keys := by
    intro unit hu definition hd rule hr
    rw [List.mem_singleton.mp hu, askingEngine_catalog] at hd
    cases hd
    rw [List.mem_singleton.mp hr]
    decide
  obtain ⟨hwork, hpass⟩ := resolve_mode_irrelevant
  refine ⟨hagree, hkeys, ?_, ?_⟩
  · exact (hpass (askingEngine "tuning") .silent (tunedRequest .parallel) {}).2 _ hagree hkeys
  · exact (hwork _ _ (fun _ => rfl) { processors := 4 } { hasWorker := false } .auto .parallel _).1

end Engine
end Activation
