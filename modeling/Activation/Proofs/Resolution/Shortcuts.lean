import Activation.Proofs.Resolution.Notifications
import Activation.Proofs.Verdict

/-!
# Filters that only save work

A filter of the pre-filter turns a unit down by what the index says of it, before its
definition is looked at.  It only saves work if the definition would have turned the unit
down anyway, whatever beans there are by then (`Engine.Spares`).  Such a filter may be put
anywhere into a chain: a unit against which it speaks would not have been accepted, and so
the host would not have been told of it, and the units after it find the host as they would
have found it (`Decision.run_filter`).

* `Engine.resolve_insert`: a pass with such a filter more in its chain.
* `Engine.resolve_symbols_spares`: the filter for symbols is of this sort if the index lists
  no symbol that the definition does not require.
* `Engine.resolve_webStack_spares`: the filter for the web stack is of this sort if the
  symbols bear each other out.  It asks for symbols of its own, which are not those from which
  the web stack is deduced, and so it may turn down a unit that would have been accepted
  (`Engine.webStack_opposes_accepted`).
-/

namespace Activation

/-! ## Units that are turned down anyway -/

namespace Decision

variable {σ : Type} {host : Host σ} {oracle : Oracle} {catalog : Catalog} {env : Environment}

/-- **Units that are never accepted** may be left out of a run: the host ends in the same
state, and the same units are accepted. -/
theorem run_filter {p : UnitName → Bool} {units : List UnitName}
    (declined : ∀ unit ∈ units, p unit = false → ∀ registry,
      (given ⟨oracle, registry, env⟩ catalog[unit]?).isAccepted = false) (state : σ) :
    (run host oracle catalog env state (units.filter p)).2 =
        (run host oracle catalog env state units).2 ∧
      Engine.acceptedIn (run host oracle catalog env state (units.filter p)).1 =
        Engine.acceptedIn (run host oracle catalog env state units).1 := by
  induction units generalizing state with
  | nil => exact ⟨rfl, rfl⟩
  | cons unit units ih =>
    have hunits := ih fun other ho => declined other (List.mem_cons_of_mem unit ho)
    rw [List.filter_cons]
    cases hp : p unit with
    | true =>
      obtain ⟨hstate, haccepted⟩ := hunits (host.afterDecision catalog state unit
        (given (host.context oracle env state) catalog[unit]?))
      rw [if_pos rfl, run, run, Engine.acceptedIn_cons, Engine.acceptedIn_cons, haccepted]
      exact ⟨hstate, rfl⟩
    | false =>
      -- the unit that is left out would not have changed the state
      have hdeclined : (given (host.context oracle env state) catalog[unit]?).isAccepted = false :=
        declined unit List.mem_cons_self hp _
      have hsame : host.afterDecision catalog state unit
          (given (host.context oracle env state) catalog[unit]?) = state := by
        rw [Host.afterDecision, hdeclined, if_neg Bool.false_ne_true]
      rw [if_neg Bool.false_ne_true, run, hsame, Engine.acceptedIn_cons, hdeclined,
        if_neg Bool.false_ne_true]
      exact hunits state

end Decision

/-- The need that an entry of the index states; a text that states none asks for any. -/
def WebNeed.stated (value : String) : WebNeed :=
  (read? value).getD .any

/-- **Two passes place the units alike**: the same units are accepted, in the same order, the
same are excluded, and the same are rejected, perhaps for other reasons. -/
structure Resolution.PlacesAlike (first second : Resolution) : Prop where
  /-- The same units are accepted in the same order. -/
  accepted : second.accepted = first.accepted
  /-- The same units are excluded in the same order. -/
  excluded : second.excluded = first.excluded
  /-- The same units are rejected. -/
  rejected : ∀ unit, unit ∈ second.rejected ↔ unit ∈ first.rejected
  /-- Both are switched off, or neither. -/
  disabled : second.disabled = first.disabled

namespace Engine

/-- An engine that applies given filters. -/
def withFilters (engine : Engine) (chain : FilterChain) : Engine :=
  { engine with filters := some chain }

/-- **A filter spares work** on some candidates: it speaks against none of them that would be
accepted with some beans or other. -/
def Spares (engine : Engine) (env : Environment) (filter : Filter) (units : List UnitName) :
    Prop :=
  ∀ unit ∈ units, ∀ outcome, filter.against? engine.index engine.oracle unit = some outcome →
    ∀ registry, (Decision.given ⟨engine.oracle, registry, env⟩
      engine.catalog[unit]?).isAccepted = false

/-- Every symbol that the index lists for a unit is required by some rule of its definition. -/
def RequiresListed (engine : Engine) (units : List UnitName) : Prop :=
  ∀ unit ∈ units, ∀ value, engine.index.condition? unit .onClass = some value →
    ∀ symbol ∈ Text.items value, ∃ definition, engine.catalog[unit]? = some definition ∧
      ∃ symbols, Rule.requiresSymbols symbols ∈ definition.rules ∧ symbol ∈ symbols

/-- Every need that the index states for a unit is declared by some rule of its definition. -/
def DeclaresStated (engine : Engine) (units : List UnitName) : Prop :=
  ∀ unit ∈ units, ∀ value, engine.index.condition? unit .onWebApplication = some value →
    ∃ definition, engine.catalog[unit]? = some definition ∧
      Rule.requiresWeb (.stated value) ∈ definition.rules

/-- The classes for a need that the index states for a unit are there if the web stack that is
deduced meets the need. -/
def BearsOut (engine : Engine) (units : List UnitName) : Prop :=
  ∀ unit ∈ units, ∀ value, engine.index.condition? unit .onWebApplication = some value →
    (WebNeed.stated value).isMetBy engine.stack = true →
      (WebNeed.stated value).isPossible engine.oracle = true

variable {σ : Type} {engine : Engine} {host : Host σ} {request : Request} {state final : σ}
  {earlier later : FilterChain} {filter : Filter} {resolution : Resolution}

/-! ## A filter more in the chain -/

/-- A chain with a filter more lets a unit through if it did before and the filter does. -/
theorem isNone_against?_insert (unit : UnitName) :
    ((engine.withFilters (earlier ++ filter :: later)).against? request.env unit).isNone =
      ((filter.against? engine.index engine.oracle unit).isNone &&
        ((engine.withFilters (earlier ++ later)).against? request.env unit).isNone) := by
  have hagainst (chain : FilterChain) : (engine.withFilters chain).against? request.env unit =
      chain.findSome? fun other => other.against? engine.index engine.oracle unit := rfl
  rw [hagainst, hagainst, Bool.eq_iff_iff, Bool.and_eq_true, Option.isNone_iff_eq_none,
    Option.isNone_iff_eq_none, Option.isNone_iff_eq_none, List.findSome?_eq_none_iff,
    List.findSome?_eq_none_iff, List.forall_mem_append, List.forall_mem_append,
    List.forall_mem_cons]
  exact and_left_comm

variable (engine request earlier later filter) in
/-- The survivors are the same, without those against which a further filter speaks. -/
theorem survivors_insert :
    (engine.withFilters (earlier ++ filter :: later)).survivors request =
      ((engine.withFilters (earlier ++ later)).survivors request).filter fun unit =>
        (filter.against? engine.index engine.oracle unit).isNone := by
  rw [survivors, survivors, List.filter_filter]
  exact List.filter_congr fun unit _ => isNone_against?_insert unit

/-- The rejected units are those that are left after the exclusions and not accepted. -/
theorem Completes.mem_rejected_iff (h : engine.Completes host request state resolution final)
    {unit : UnitName} :
    unit ∈ resolution.rejected ↔ unit ∈ request.kept ∧ unit ∉ resolution.accepted := by
  constructor
  · intro hr
    exact ⟨h.mem_kept_iff.mpr (Or.inr hr), fun ha => h.notMem_rejected ha hr⟩
  · rintro ⟨hk, ha⟩
    exact (h.mem_kept_iff.mp hk).resolve_left ha

section Insert

variable (spares : engine.Spares request.env filter request.candidates)
include spares

variable (host earlier later) in
/-- With a filter more that spares work, the host is left in the same state and the same
units are accepted. -/
theorem decide_insert (state : σ) :
    (engine.decide host request.env state
        ((engine.withFilters (earlier ++ filter :: later)).survivors request)).2 =
      (engine.decide host request.env state
        ((engine.withFilters (earlier ++ later)).survivors request)).2 ∧
    acceptedIn (engine.decide host request.env state
        ((engine.withFilters (earlier ++ filter :: later)).survivors request)).1 =
      acceptedIn (engine.decide host request.env state
        ((engine.withFilters (earlier ++ later)).survivors request)).1 := by
  rw [survivors_insert, decide, decide]
  refine Decision.run_filter (fun unit hu hp => ?_) state
  have hcandidate := (Request.mem_kept.mp (mem_survivors.mp hu).1).1
  rw [Option.isNone_eq_false_iff, Option.isSome_iff_exists] at hp
  obtain ⟨outcome, ho⟩ := hp
  exact spares unit hcandidate outcome ho

/-- **A pass that succeeds** goes through its stages with a filter more as well, and places
the units alike. -/
theorem Completes.exists_insert
    (h : (engine.withFilters (earlier ++ later)).Completes host request state resolution final) :
    ∃ further,
      (engine.withFilters (earlier ++ filter :: later)).Completes host request state further
        final ∧
      resolution.PlacesAlike further := by
  obtain ⟨hstate, haccepted⟩ :=
    decide_insert host earlier later spares state
  have hsound : (engine.withFilters (earlier ++ filter :: later)).fault? request = none := by
    have hfault := h.sound
    rw [fault?, List.findSome?_eq_none_iff] at hfault ⊢
    intro unit hu
    rw [survivors_insert] at hu
    exact hfault unit (List.mem_filter.mp hu).1
  have harranged : Order.arrange engine.index engine.catalog (acceptedIn
      ((engine.withFilters (earlier ++ filter :: later)).decisions host request state)) =
        .ok resolution.accepted :=
    (congrArg (Order.arrange engine.index engine.catalog) haccepted).trans h.arranged
  obtain ⟨further, hfurther⟩ := Completes.exists_of_arrange
    (engine.withFilters (earlier ++ filter :: later)) host request state h.enabled h.valid hsound
    ⟨_, harranged⟩
  have hfinal : final =
      (engine.withFilters (earlier ++ filter :: later)).hostAfter host request state :=
    h.final_eq.trans hstate.symm
  have hsame : further.accepted = resolution.accepted := by
    have hother := hfurther.arranged
    exact Except.ok.inj (hother.symm.trans harranged)
  rw [← hfinal] at hfurther
  refine ⟨further, hfurther, hsame, hfurther.excluded_eq.trans h.excluded_eq.symm, ?_, ?_⟩
  · intro unit
    rw [hfurther.mem_rejected_iff, h.mem_rejected_iff, hsame]
  · rw [(resolve_eq_ok_iff.mpr hfurther).2, (resolve_eq_ok_iff.mpr h).2]

/-- **A filter that spares work cannot be seen** in a pass that succeeds: with it anywhere in
the chain, the pass succeeds, places the units alike, and leaves the host in the same state. -/
theorem resolve_insert
    (success : (engine.withFilters (earlier ++ later)).resolve host request state =
      (.ok resolution, final)) :
    ∃ further,
      (engine.withFilters (earlier ++ filter :: later)).resolve host request state =
        (.ok further, final) ∧
      resolution.PlacesAlike further := by
  by_cases enabled :
      ((engine.withFilters (earlier ++ later)).settingsIn request.env).enabled = true
  · obtain ⟨further, hfurther, halike⟩ := (Completes.of_eq_ok enabled success).exists_insert spares
    exact ⟨further, (resolve_eq_ok_iff.mpr hfurther).1, halike⟩
  · -- a pass that is switched off looks at no filter
    have hoff := resolve_eq_switchedOff host state enabled
    rw [success] at hoff
    cases hoff
    exact ⟨.switchedOff, resolve_eq_switchedOff host state enabled, rfl, rfl, fun _ => Iff.rfl, rfl⟩

/-- The host is told of the same units, too. -/
theorem told_insert
    (success : (engine.withFilters (earlier ++ later)).resolve host request state =
      (.ok resolution, final)) :
    (engine.withFilters (earlier ++ filter :: later)).told host request state =
      (engine.withFilters (earlier ++ later)).told host request state := by
  have hrecorded := resolve_recording (engine.withFilters (earlier ++ later)) host request state
  rw [success] at hrecorded
  obtain ⟨further, hfurther, -⟩ := resolve_insert spares hrecorded
  rw [told, hfurther]

end Insert

/-! ## The filter for symbols -/

end Engine

/-- The filter for symbols speaks against a unit for which the index lists a symbol that is
not there. -/
theorem Filter.exists_of_symbols_against? {index : Metadata} {oracle : Oracle} {unit : UnitName}
    {mode : PrefilterMode} {outcome : Outcome}
    (h : (symbols mode).against? index oracle unit = some outcome) :
    ∃ value, index.condition? unit .onClass = some value ∧
      ∃ symbol ∈ Text.items value, oracle symbol = false := by
  have hsome : symbolOutcome? index oracle unit = some outcome :=
    (Option.filter_eq_some_iff.mp h).1
  rw [symbolOutcome?, Option.bind_eq_some_iff] at hsome
  obtain ⟨value, hv, hmissing⟩ := hsome
  rw [Oracle.firstMissing?, Option.map_eq_some_iff] at hmissing
  obtain ⟨symbol, hfind, -⟩ := hmissing
  refine ⟨value, hv, symbol, List.mem_of_find?_eq_some hfind, ?_⟩
  simpa using List.find?_some hfind

/-- A rule that requires symbols matches if all of them are there. -/
theorem Rule.matched_evaluateRequired (symbols : List Symbol) (oracle : Oracle) :
    (evaluateRequired symbols oracle).matched = symbols.all oracle := by
  have hmissing : (oracle.missing symbols).isEmpty = symbols.all oracle := by
    rw [Bool.eq_iff_iff, List.isEmpty_iff, Oracle.missing, List.filter_eq_nil_iff]
    simp
  rw [evaluateRequired, hmissing]
  cases symbols.all oracle with
  | true => rfl
  | false => rfl

namespace Engine

/-- The filter for symbols spares work if every symbol that the index lists for a unit is
required by its definition. -/
theorem spares_symbols {engine : Engine} {units : List UnitName}
    (listed : engine.RequiresListed units) (env : Environment) (mode : PrefilterMode) :
    engine.Spares env (.symbols mode) units := by
  intro unit hu outcome ho registry
  obtain ⟨value, hv, symbol, hs, habsent⟩ := Filter.exists_of_symbols_against? ho
  obtain ⟨definition, hd, symbols, hr, hm⟩ := listed unit hu value hv symbol hs
  refine Decision.isAccepted_given_eq_false hd hr ?_
  rw [Rule.evaluate, Rule.matched_evaluateRequired, List.all_eq_false]
  exact ⟨symbol, hm, Bool.eq_false_iff.mp habsent⟩

/-- **The filter for symbols is a pure optimisation.**  Let every symbol that the index lists
for a candidate be among the symbols that some rule of its definition requires.  If a pass
succeeds with a chain of filters, then it succeeds with the filter for symbols anywhere in the
chain, in whatever mode: the same units are accepted in the same order, the same are excluded
and the same are rejected, and the host is told of the same units and ends in the same state.
This holds for any host, and so for one that registers beans. -/
theorem resolve_symbols_spares {σ : Type} (engine : Engine) (host : Host σ) (request : Request)
    (state final : σ) (resolution : Resolution) (earlier later : FilterChain)
    (mode : PrefilterMode) (listed : engine.RequiresListed request.candidates)
    (success : (engine.withFilters (earlier ++ later)).resolve host request state =
      (.ok resolution, final)) :
    ∃ further,
      (engine.withFilters (earlier ++ .symbols mode :: later)).resolve host request state =
        (.ok further, final) ∧
      resolution.PlacesAlike further ∧
      (engine.withFilters (earlier ++ .symbols mode :: later)).told host request state =
        (engine.withFilters (earlier ++ later)).told host request state := by
  have spares := spares_symbols listed request.env mode
  obtain ⟨further, hfurther, halike⟩ := resolve_insert spares success
  exact ⟨further, hfurther, halike, told_insert spares success⟩

/-- An engine that knows a cache with two required symbols, one of which is missing, a store,
and a fallback for want of a store.  The index lists both symbols of the cache. -/
def cacheEngine : Engine where
  oracle symbol := symbol == "Store"
  index := .ofPairs [("cache.ConditionalOnClass", "Store, Redis,")]
  catalog := .ofDefinitions
    [{ name := "cache", rules := [.requiresSymbols ["Store"], .requiresSymbols ["Jedis", "Redis"]],
       provides := [{ name := "cache", types := ["Store"] }] },
     { name := "fallback", rules := [.forbidsBeans { types := ["Store"] }] }]

/-- A request for the cache and the fallback. -/
def cacheFirst : Request where
  candidates := ["cache", "fallback"]

/-- The cache is rejected by the filter and without it, and so the fallback is accepted. -/
theorem resolve_symbols_spares_cache :
    cacheEngine.RequiresListed cacheFirst.candidates ∧
    ∃ resolution final further,
      (cacheEngine.withFilters ([.beanTypes] ++ [.webStack])).resolve .registering cacheFirst {} =
        (.ok resolution, final) ∧
      (cacheEngine.withFilters ([.beanTypes] ++ .symbols .auto :: [.webStack])).resolve
        .registering cacheFirst {} = (.ok further, final) ∧
      resolution.PlacesAlike further ∧ "cache" ∈ resolution.rejected := by
  have listed : cacheEngine.RequiresListed cacheFirst.candidates := by
    have hcache : cacheEngine.index.condition? "cache" .onClass = some "Store, Redis," := by
      decide
    have hfallback : cacheEngine.index.condition? "fallback" .onClass = none := by decide
    have hitems : Text.items "Store, Redis," = ["Store", "Redis"] := by decide
    have hdefinition : cacheEngine.catalog["cache"]? = some
        { name := "cache"
          rules := [.requiresSymbols ["Store"], .requiresSymbols ["Jedis", "Redis"]]
          provides := [{ name := "cache", types := ["Store"] }] } := by decide
    intro unit hu value hv symbol hs
    simp only [cacheFirst, List.mem_cons, List.not_mem_nil, or_false] at hu
    rcases hu with rfl | rfl
    · rw [hcache] at hv
      cases hv
      rw [hitems] at hs
      refine ⟨_, hdefinition, ?_⟩
      simp only [List.mem_cons, List.not_mem_nil, or_false] at hs
      rcases hs with rfl | rfl
      · exact ⟨["Store"], by simp, by simp⟩
      · exact ⟨["Jedis", "Redis"], by simp, by simp⟩
    · rw [hfallback] at hv
      cases hv
  have haccepted : acceptedIn ((cacheEngine.withFilters
      ([.beanTypes] ++ [.webStack])).decisions .registering cacheFirst {}) = ["fallback"] := by
    decide
  have harranged : ∃ order, Order.arrange cacheEngine.index cacheEngine.catalog ["fallback"] =
      .ok order :=
    Order.exists_arrange_of_unrelated
      (List.forall_mem_singleton.mpr ⟨0, by decide⟩)
  obtain ⟨resolution, h⟩ := Completes.exists_of_arrange
    (cacheEngine.withFilters ([.beanTypes] ++ [.webStack])) Host.registering cacheFirst {}
    (by decide) (by decide) (by decide)
    (by rw [haccepted]; exact harranged)
  have success := (resolve_eq_ok_iff.mpr h).1
  obtain ⟨further, hfurther, halike, -⟩ := resolve_symbols_spares cacheEngine Host.registering
    cacheFirst {} _ resolution [.beanTypes] [.webStack] .auto listed success
  have hkept : cacheFirst.kept = ["cache", "fallback"] := by decide
  refine ⟨listed, resolution, _, further, success, hfurther, halike, ?_⟩
  rw [h.mem_rejected_iff, h.isTopological.mem_iff, haccepted, hkept]
  decide

/-! ## The filter for the web stack -/

end Engine

namespace WebNeed

theorem matched_evaluate (need : WebNeed) (stack : WebStack) :
    (need.evaluate stack).matched = need.isMetBy stack := by
  rw [evaluate]
  cases need.isMetBy stack with
  | true => rfl
  | false => rfl

end WebNeed

/-- The filter for the web stack lets a unit through if the need that the index states for it
is possible, or if it states none. -/
theorem Filter.isNone_webStack_against? (index : Metadata) (oracle : Oracle) (unit : UnitName) :
    (webStack.against? index oracle unit).isNone =
      (index.condition? unit .onWebApplication).all fun value =>
        (WebNeed.stated value).isPossible oracle := by
  rw [against?, outcome?, webOutcome?]
  cases index.condition? unit .onWebApplication with
  | none => rfl
  | some value =>
    rw [Option.bind_some, WebNeed.unavailable?, Option.all_some, WebNeed.stated]
    cases ((WebNeed.read? value).getD .any).isPossible oracle with
    | true => rfl
    | false => rfl

namespace Engine

/-- The filter for the web stack spares work if every need that the index states for a unit
is declared by its definition, and is possible wherever it is met. -/
theorem spares_webStack {engine : Engine} {units : List UnitName}
    (declared : engine.DeclaresStated units) (possible : engine.BearsOut units)
    (env : Environment) : engine.Spares env .webStack units := by
  intro unit hu outcome ho registry
  have hnone := Filter.isNone_webStack_against? engine.index engine.oracle unit
  rw [ho, Option.isNone_some, eq_comm, Option.all_eq_false] at hnone
  obtain ⟨value, hv, himpossible⟩ := hnone
  obtain ⟨definition, hd, hr⟩ := declared unit hu value hv
  refine Decision.isAccepted_given_eq_false hd hr ?_
  have hstack : (Application.ofOracle engine.oracle).stack = engine.stack := rfl
  rw [Rule.evaluate, WebNeed.matched_evaluate, hstack, ← Bool.not_eq_true]
  intro hmet
  exact Bool.false_ne_true (himpossible.symm.trans (possible unit hu value hv hmet))

/-- **The filter for the web stack is a pure optimisation where the symbols bear each other
out.**  Let every need that the index states for a candidate be declared by a rule of its
definition, and let the classes that the filter looks for be there whenever the need is met
by the web stack that is deduced.  Then the filter turns down no candidate that would be
accepted with some beans or other.  And if a pass succeeds with a chain of filters, then it
succeeds with the filter for the web stack anywhere in the chain: the same units are accepted
in the same order, the same are excluded and the same are rejected, and the host is told of
the same units and ends in the same state. -/
theorem resolve_webStack_spares (engine : Engine) (request : Request)
    (declared : engine.DeclaresStated request.candidates)
    (possible : engine.BearsOut request.candidates) :
    engine.Spares request.env .webStack request.candidates ∧
    ∀ {σ : Type} (host : Host σ) (state final : σ) (resolution : Resolution)
      (earlier later : FilterChain),
      (engine.withFilters (earlier ++ later)).resolve host request state =
        (.ok resolution, final) →
      ∃ further,
        (engine.withFilters (earlier ++ .webStack :: later)).resolve host request state =
          (.ok further, final) ∧
        resolution.PlacesAlike further ∧
        (engine.withFilters (earlier ++ .webStack :: later)).told host request state =
          (engine.withFilters (earlier ++ later)).told host request state := by
  have spares := spares_webStack declared possible request.env
  refine ⟨spares, fun host state final resolution earlier later success => ?_⟩
  obtain ⟨further, hfurther, halike⟩ := resolve_insert spares success
  exact ⟨further, hfurther, halike, told_insert spares success⟩

/-- An engine for a build with given symbols, and a shop that needs the servlet stack, by
the index as well as by its definition. -/
def webEngine (symbols : List Symbol) : Engine where
  oracle := symbols.contains
  index := .ofPairs [("shop.ConditionalOnWebApplication", " Servlet ")]
  catalog := .ofDefinitions [{ name := "shop", rules := [.requiresWeb .servlet] }]

/-- A request for the shop and a log. -/
def webRequest : Request where
  candidates := ["shop", "log"]

section WebEngine

variable (symbols : List Symbol) (chain : FilterChain)

theorem forall_mem_webRequest {p : UnitName → Prop} :
    (∀ unit ∈ webRequest.candidates, p unit) ↔ p "shop" ∧ p "log" := by
  simp [webRequest]

theorem webEngine_shop : (webEngine symbols).catalog["shop"]? =
    some { name := "shop", rules := [.requiresWeb .servlet] } := by
  show (webEngine []).catalog["shop"]? = _
  decide

theorem webEngine_log : (webEngine symbols).catalog["log"]? = none := by
  show (webEngine []).catalog["log"]? = none
  decide

theorem webEngine_condition?_shop :
    (webEngine symbols).index.condition? "shop" .onWebApplication = some " Servlet " := by
  show (webEngine []).index.condition? "shop" .onWebApplication = some " Servlet "
  decide

theorem webEngine_condition?_log :
    (webEngine symbols).index.condition? "log" .onWebApplication = none := by
  show (webEngine []).index.condition? "log" .onWebApplication = none
  decide

theorem stated_servlet : WebNeed.stated " Servlet " = .servlet := by decide

/-- The definition of the shop declares the need that the index states. -/
theorem webEngine_declared : (webEngine symbols).DeclaresStated webRequest.candidates := by
  rw [DeclaresStated, forall_mem_webRequest, webEngine_condition?_shop, webEngine_condition?_log]
  refine ⟨?_, by simp⟩
  rintro value ⟨rfl⟩
  rw [stated_servlet]
  exact ⟨_, webEngine_shop symbols, List.mem_singleton_self _⟩

/-- On the servlet stack both units are accepted unless they are sorted out. -/
theorem acceptedIn_webRequest (hstack : (webEngine symbols).stack = .servlet) :
    acceptedIn (((webEngine symbols).withFilters chain).decisions .silent webRequest {}) =
      ((webEngine symbols).withFilters chain).survivors webRequest := by
  have haccepted : ∀ unit ∈ webRequest.candidates, (Decision.given
      ⟨(webEngine symbols).oracle, {}, webRequest.env⟩
        (webEngine symbols).catalog[unit]?).isAccepted = true := by
    simp only [forall_mem_webRequest, Decision.isAccepted_given_iff, webEngine_shop,
      webEngine_log]
    refine ⟨?_, by simp⟩
    rintro definition ⟨rfl⟩ rule hr
    rw [List.mem_singleton.mp hr, Rule.evaluate, WebNeed.matched_evaluate]
    exact congrArg (WebNeed.isMetBy .servlet) hstack
  have hall : (((webEngine symbols).withFilters chain).survivors webRequest).filter
      (fun unit => (Decision.given ⟨(webEngine symbols).oracle, {}, webRequest.env⟩
        (webEngine symbols).catalog[unit]?).isAccepted) =
      ((webEngine symbols).withFilters chain).survivors webRequest := by
    rw [List.filter_eq_self]
    intro unit hu
    exact haccepted unit (Request.mem_kept.mp (mem_survivors.mp hu).1).1
  rw [decisions, decide, Decision.run_silent, acceptedIn, List.filter_map, List.map_map]
  exact (List.map_id _).trans hall

/-- A pass over units that can be arranged as they survive succeeds. -/
theorem webEngine_completes (hstack : (webEngine symbols).stack = .servlet)
    {survivors : List UnitName}
    (hs : ((webEngine symbols).withFilters chain).survivors webRequest = survivors)
    (harranged : Order.arrange (webEngine symbols).index (webEngine symbols).catalog survivors =
      .ok survivors) :
    ∃ resolution final, ((webEngine symbols).withFilters chain).Completes .silent webRequest {}
      resolution final ∧ resolution.accepted = survivors := by
  have hsound : ((webEngine symbols).withFilters chain).fault? webRequest = none := by
    have hunits : ∀ unit ∈ webRequest.candidates,
        Decision.fault? (webEngine symbols).catalog unit = none := by
      rw [forall_mem_webRequest, Decision.fault?, Decision.fault?, webEngine_shop, webEngine_log]
      exact ⟨rfl, rfl⟩
    rw [fault?, List.findSome?_eq_none_iff]
    intro unit hu
    exact hunits unit (Request.mem_kept.mp (mem_survivors.mp hu).1).1
  have haccepted := acceptedIn_webRequest symbols chain hstack
  rw [hs] at haccepted
  have henabled : (((webEngine symbols).withFilters chain).settingsIn webRequest.env).enabled =
      true := by
    show ((webEngine []).settingsIn webRequest.env).enabled = true
    decide
  obtain ⟨resolution, h⟩ := Completes.exists_of_arrange ((webEngine symbols).withFilters chain)
    Host.silent webRequest {} henabled (invalid_of_unrestricted (by decide)) hsound
    ⟨_, by rw [haccepted]; exact harranged⟩
  have hother := h.arranged
  rw [haccepted] at hother
  exact ⟨resolution, _, h, Except.ok.inj (hother.symm.trans harranged)⟩

theorem survivors_webRequest :
    ((webEngine symbols).withFilters []).survivors webRequest = ["shop", "log"] := by
  show ((webEngine []).withFilters []).survivors webRequest = ["shop", "log"]
  decide

/-- Without the class for which it looks, the filter for the web stack sorts out the shop. -/
theorem survivors_webRequest_webStack (h : WebNeed.servletSymbol ∉ symbols) :
    ((webEngine symbols).withFilters [.webStack]).survivors webRequest = ["log"] := by
  have hinsert : ((webEngine symbols).withFilters [.webStack]).survivors webRequest =
      (((webEngine symbols).withFilters []).survivors webRequest).filter fun unit =>
        (Filter.webStack.against? (webEngine symbols).index (webEngine symbols).oracle
          unit).isNone := survivors_insert _ webRequest [] [] .webStack
  have himpossible : WebNeed.isPossible (webEngine symbols).oracle .servlet = false := by
    rw [← Bool.not_eq_true]
    exact fun hp => h (List.contains_iff_mem.mp hp)
  rw [hinsert, survivors_webRequest]
  simp only [Filter.isNone_webStack_against?, List.filter_cons, List.filter_nil,
    webEngine_condition?_shop, webEngine_condition?_log, stated_servlet, Option.all_some,
    Option.all_none, himpossible]
  rfl

/-- Neither unit is related to another, whichever symbols there are. -/
theorem webEngine_unrelated : ∀ unit ∈ ["shop", "log"], ∃ order,
    Hints.read (webEngine symbols).index (webEngine symbols).catalog unit = .ok { order } := by
  show ∀ unit ∈ _, ∃ order,
    Hints.read (webEngine []).index (webEngine []).catalog unit = .ok { order }
  simp only [List.forall_mem_cons]
  exact ⟨⟨0, by decide⟩, ⟨0, by decide⟩, List.forall_mem_nil _⟩

theorem webEngine_arranges : Order.arrange (webEngine symbols).index (webEngine symbols).catalog
    ["shop", "log"] = .ok ["shop", "log"] := by
  show Order.arrange (webEngine []).index (webEngine []).catalog _ = _
  rw [Order.arrange_of_unrelated (webEngine_unrelated []) (by decide), Order.prioritized,
    List.mergeSort_of_pairwise (by decide)]

theorem webEngine_arranges_log : Order.arrange (webEngine symbols).index
    (webEngine symbols).catalog ["log"] = .ok ["log"] := by
  have hlog := (List.forall_mem_cons.mp (webEngine_unrelated symbols)).2
  rw [Order.arrange_of_unrelated hlog (List.nodup_singleton _), Order.prioritized,
    List.mergeSort_singleton]

end WebEngine

/-- **A unit turned down by the filter for the web stack that would have been accepted.**  The
build has the symbols from which a servlet application is deduced, but not the one for which
the filter looks. -/
theorem webStack_opposes_accepted :
    (webEngine WebStack.servletIndicators).DeclaresStated webRequest.candidates ∧
    (webEngine WebStack.servletIndicators).stack = .servlet ∧
    ∃ resolution further,
      (((webEngine WebStack.servletIndicators).withFilters []).resolve .silent webRequest {}).1 =
        .ok resolution ∧
      (((webEngine WebStack.servletIndicators).withFilters [.webStack]).resolve .silent webRequest
        {}).1 = .ok further ∧
      resolution.accepted = ["shop", "log"] ∧ "shop" ∉ resolution.rejected ∧
      further.accepted = ["log"] ∧ "shop" ∈ further.rejected := by
  have hstack : (webEngine WebStack.servletIndicators).stack = .servlet := by decide
  obtain ⟨resolution, _, h, haccepted⟩ := webEngine_completes _ [] hstack
    (survivors_webRequest _) (webEngine_arranges _)
  obtain ⟨further, _, h', haccepted'⟩ := webEngine_completes _ [.webStack] hstack
    (survivors_webRequest_webStack _ (by decide)) (webEngine_arranges_log _)
  have hkept : webRequest.kept = ["shop", "log"] := by decide
  refine ⟨webEngine_declared _, hstack, resolution, further,
    congrArg Prod.fst (resolve_eq_ok_iff.mpr h).1, congrArg Prod.fst (resolve_eq_ok_iff.mpr h').1,
    haccepted, ?_, haccepted', ?_⟩
  · rw [h.mem_rejected_iff, haccepted]
    simp
  · rw [h'.mem_rejected_iff, haccepted', hkept]
    decide

/-- A build with every class of the servlet stack. -/
def servletBuild : List Symbol :=
  WebNeed.servletSymbol :: WebStack.servletIndicators

/-- With the class for which the filter looks, the shop is accepted by both passes. -/
theorem resolve_webStack_spares_shop :
    (webEngine servletBuild).DeclaresStated webRequest.candidates ∧
    (webEngine servletBuild).BearsOut webRequest.candidates ∧
    ∃ resolution final further,
      ((webEngine servletBuild).withFilters ([] ++ [])).resolve .silent webRequest {} =
        (.ok resolution, final) ∧
      ((webEngine servletBuild).withFilters ([] ++ .webStack :: [])).resolve .silent webRequest
        {} = (.ok further, final) ∧
      resolution.PlacesAlike further ∧ resolution.accepted = ["shop", "log"] := by
  have declared := webEngine_declared servletBuild
  have possible : (webEngine servletBuild).BearsOut webRequest.candidates := by
    rw [BearsOut, forall_mem_webRequest, webEngine_condition?_shop, webEngine_condition?_log]
    refine ⟨?_, by simp⟩
    rintro value ⟨rfl⟩ -
    rw [stated_servlet]
    exact List.contains_iff_mem.mpr List.mem_cons_self
  obtain ⟨resolution, final, h, haccepted⟩ := webEngine_completes servletBuild ([] ++ [])
    (by decide) (survivors_webRequest servletBuild) (webEngine_arranges servletBuild)
  have success := (resolve_eq_ok_iff.mpr h).1
  obtain ⟨-, hpass⟩ := resolve_webStack_spares (webEngine servletBuild) webRequest declared possible
  obtain ⟨further, hfurther, halike, -⟩ := hpass .silent {} final resolution [] [] success
  exact ⟨declared, possible, resolution, final, further, success, hfurther, halike, haccepted⟩

end Engine
end Activation
