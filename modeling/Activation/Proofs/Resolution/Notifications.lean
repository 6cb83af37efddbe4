import Activation.Proofs.Resolution.Endings
import Activation.Proofs.Resolution.Splitting

/-!
# What the host is told

The host hears of an accepted unit in the middle of the evaluation, before anybody knows
how the pass will end.  What it hears is written down by a host that keeps a record and
otherwise does as the host at hand (`Host.recording`); keeping the record changes nothing
(`Engine.resolve_recording`).  And the host does nothing by itself: a pass leaves it in the
state to which the calls have brought it (`Host.after`).

* `Decision.run_recording`: the calls are those for the accepted units, in the order of
  evaluation.
* `Engine.soundPart`: the evaluation stops at the first unit at fault, so the units before
  it are those that are evaluated; `Engine.told_eq` says that the calls are for the accepted
  ones among these.
* `Engine.mem_told_iff`: whether the host is told of a unit depends on the calls before.
* `Engine.resolve_notifies`: the calls of a pass, by how it ends, and what they do to a
  registry.
-/

namespace Activation

/-- What is said of units when they are accepted: the name and the definition, if any. -/
def Catalog.announce (catalog : Catalog) (units : List UnitName) :
    List (UnitName × Option Definition) :=
  units.map fun unit => (unit, catalog[unit]?)

theorem Catalog.map_fst_announce (catalog : Catalog) (units : List UnitName) :
    (catalog.announce units).map Prod.fst = units := by
  rw [announce, List.map_map]
  exact List.map_id _

namespace Host

/-- **The state of a host that has been told of units**, one after the other. -/
def after {σ : Type} (host : Host σ) (state : σ) (calls : List (UnitName × Option Definition)) :
    σ :=
  calls.foldl (fun state call => host.accept state call.1 call.2) state

/-- The host that takes no notice stays as it is. -/
theorem after_silent (registry : Registry) (calls : List (UnitName × Option Definition)) :
    silent.after registry calls = registry := by
  induction calls with
  | nil => rfl
  | cons call calls ih => exact ih

/-- **The registering host** registers the beans of the units in the current scope, one unit
after the other, and leaves the enclosing scopes alone. -/
theorem after_registering (registry : Registry) (calls : List (UnitName × Option Definition)) :
    registering.after registry calls =
      registry.registerAll (calls.flatMap fun call => Definition.providedBy call.2) := by
  induction calls generalizing registry with
  | nil => rfl
  | cons call calls ih =>
    have hstep : registering.after registry (call :: calls) =
        registering.after (registry.registerAll (Definition.providedBy call.2)) calls := rfl
    rw [hstep, ih, List.flatMap_cons, Registry.registerAll, Registry.registerAll,
      Registry.registerAll, Scope.registerAll, Scope.registerAll, Scope.registerAll,
      List.foldl_append]

end Host

theorem Engine.acceptedIn_cons (unit : UnitName) (decision : Decision)
    (rest : List (UnitName × Decision)) :
    acceptedIn ((unit, decision) :: rest) =
      if decision.isAccepted then unit :: acceptedIn rest else acceptedIn rest := by
  rw [acceptedIn, List.filter_cons]
  cases decision.isAccepted with
  | false => rfl
  | true => rfl

namespace Decision

open Engine (acceptedIn)

variable {σ : Type} (host : Host σ) (oracle : Oracle) (catalog : Catalog) (env : Environment)

/-- **A run leaves the host** where the calls for the accepted units bring it. -/
theorem snd_run (state : σ) (units : List UnitName) :
    (run host oracle catalog env state units).2 = host.after state
      (catalog.announce (acceptedIn (run host oracle catalog env state units).1)) := by
  induction units generalizing state with
  | nil => rfl
  | cons unit units ih =>
    rw [run, Engine.acceptedIn_cons, Host.afterDecision]
    cases (given (host.context oracle env state) catalog[unit]?).isAccepted with
    | false => exact ih state
    | true => exact ih (host.accept state unit catalog[unit]?)

/-- **A host that keeps a record** makes the same decisions, and records the calls. -/
theorem run_recording (state : σ) (log : List (UnitName × Option Definition))
    (units : List UnitName) :
    run host.recording oracle catalog env (state, log) units =
      ((run host oracle catalog env state units).1, (run host oracle catalog env state units).2,
        log ++ catalog.announce (acceptedIn (run host oracle catalog env state units).1)) := by
  induction units generalizing state log with
  | nil =>
    have hlog : log ++ catalog.announce [] = log := List.append_nil log
    rw [run, run, acceptedIn, List.filter_nil, List.map_nil, hlog]
  | cons unit units ih =>
    have hcontext : host.recording.context oracle env (state, log) =
        host.context oracle env state := rfl
    rw [run, run, hcontext, Engine.acceptedIn_cons, Host.afterDecision, Host.afterDecision]
    cases (given (host.context oracle env state) catalog[unit]?).isAccepted with
    | false =>
      simp only [Bool.false_eq_true, if_false, ih]
    | true =>
      have haccept : host.recording.accept (state, log) unit catalog[unit]? =
          (host.accept state unit catalog[unit]?, log ++ [(unit, catalog[unit]?)]) := rfl
      simp only [if_true, haccept, ih, List.append_assoc]
      rfl

/-- Further units are accepted in the state to which the calls for the first ones have
brought the host. -/
theorem acceptedIn_run_append (state : σ) (units further : List UnitName) :
    acceptedIn (run host oracle catalog env state (units ++ further)).1 =
      acceptedIn (run host oracle catalog env state units).1 ++
        acceptedIn (run host oracle catalog env (host.after state (catalog.announce
          (acceptedIn (run host oracle catalog env state units).1))) further).1 := by
  rw [run_append, Engine.acceptedIn_append, ← snd_run]

end Decision

namespace Engine

/-! ## The units that are evaluated -/

/-- The first of some units, up to one at fault. -/
def soundPart (engine : Engine) (units : List UnitName) : List UnitName :=
  units.takeWhile fun unit => (Decision.fault? engine.catalog unit).isNone

section SoundPart

variable {engine : Engine} {units : List UnitName}

theorem soundPart_sublist : (engine.soundPart units).Sublist units :=
  List.takeWhile_sublist _

theorem soundPart_append (h : ∀ unit ∈ units, Decision.fault? engine.catalog unit = none)
    (further : List UnitName) :
    engine.soundPart (units ++ further) = units ++ engine.soundPart further := by
  rw [soundPart, List.takeWhile_append_of_pos]
  · rfl
  · intro unit hu
    rw [h unit hu]
    rfl

theorem soundPart_eq_self (h : ∀ unit ∈ units, Decision.fault? engine.catalog unit = none) :
    engine.soundPart units = units := by
  have happend := soundPart_append h []
  rwa [List.append_nil, soundPart, soundPart, List.takeWhile_nil, List.append_nil] at happend

/-- What comes after a unit at fault does not matter. -/
theorem soundPart_append_subset (h : ¬∀ unit ∈ units, Decision.fault? engine.catalog unit = none)
    (further : List UnitName) : engine.soundPart (units ++ further) ⊆ units := by
  have hshort : (engine.soundPart units).length ≠ units.length := by
    intro hlength
    have hall := (List.takeWhile_prefix _).eq_of_length hlength
    rw [List.takeWhile_eq_self_iff] at hall
    exact h fun unit hu => Option.isNone_iff_eq_none.mp (hall unit hu)
  rw [soundPart, List.takeWhile_append]
  rw [soundPart] at hshort
  rw [if_neg hshort]
  exact List.takeWhile_subset _

end SoundPart

/-! ## The calls -/

variable {σ : Type} (engine : Engine) (host : Host σ) (request : Request) (state : σ)

/-- **The calls of a pass**: the units of which the host is told, with what it is told. -/
def told : List (UnitName × Option Definition) :=
  (engine.resolve host.recording request (state, [])).2.2

/-- The units accepted in an evaluation of the given units. -/
def acceptedFrom (units : List UnitName) : List UnitName :=
  acceptedIn (engine.decide host request.env state units).1

/-- **A decision in favour of a unit**, in the state to which some calls bring the host. -/
def Accepts (calls : List (UnitName × Option Definition)) (unit : UnitName) : Prop :=
  ∃ decision, Decision.ofDefinition (host.context engine.oracle request.env
    (host.after state calls)) unit engine.catalog[unit]? = .ok decision ∧
      decision.isAccepted = true

/-- The pass comes to an evaluation. -/
def Evaluates : Prop :=
  (engine.settingsIn request.env).enabled = true ∧ engine.invalid request = []

variable {engine host request state}

theorem acceptedFrom_sublist (units : List UnitName) :
    (engine.acceptedFrom host request state units).Sublist units := by
  have h := acceptedIn_sublist (engine.decide host request.env state units).1
  rwa [decide, Decision.map_fst_run] at h

theorem soundPart_survivors (sound : engine.fault? request = none) :
    engine.soundPart (engine.survivors request) = engine.survivors request :=
  soundPart_eq_self (List.findSome?_eq_none_iff.mp sound)

/-- An evaluation leaves the host where the decisions leave it. -/
theorem snd_resolve_of_evaluates (h : engine.Evaluates request) :
    (engine.resolve host request state).2 = (engine.decide host request.env state
      (engine.soundPart (engine.survivors request))).2 := by
  rw [resolve_eq h.1, if_pos (List.isEmpty_iff.mpr h.2)]
  cases hf : engine.fault? request with
  | some problem => rfl
  | none =>
    rw [soundPart_survivors hf]
    rfl

/-- Without an evaluation the host stays as it is. -/
theorem snd_resolve_of_not_evaluates (h : ¬engine.Evaluates request) :
    (engine.resolve host request state).2 = state := by
  by_cases enabled : (engine.settingsIn request.env).enabled = true
  · have hinvalid : ¬(engine.invalid request).isEmpty = true := by
      rw [List.isEmpty_iff]
      exact fun valid => h ⟨enabled, valid⟩
    rw [resolve_eq enabled, if_neg hinvalid]
  · rw [resolve, if_neg enabled]

/-- **Of whom the host is told** in an evaluation: of the accepted units. -/
theorem told_eq (h : engine.Evaluates request) : engine.told host request state =
    engine.catalog.announce (engine.acceptedFrom host request state
      (engine.soundPart (engine.survivors request))) := by
  rw [told, snd_resolve_of_evaluates h, decide, Decision.run_recording, List.nil_append]
  rfl

theorem told_eq_nil (h : ¬engine.Evaluates request) : engine.told host request state = [] := by
  rw [told, snd_resolve_of_not_evaluates h]

theorem map_fst_told (h : engine.Evaluates request) :
    (engine.told host request state).map Prod.fst = engine.acceptedFrom host request state
      (engine.soundPart (engine.survivors request)) := by
  rw [told_eq h, Catalog.map_fst_announce]

/-- The calls name units, each with its definition. -/
theorem told_eq_announce : engine.told host request state =
    engine.catalog.announce ((engine.told host request state).map Prod.fst) := by
  by_cases h : engine.Evaluates request
  · rw [map_fst_told h, told_eq h]
  · rw [told_eq_nil h]
    rfl

/-- The host is told of units to be evaluated, in their order. -/
theorem told_sublist :
    ((engine.told host request state).map Prod.fst).Sublist (engine.survivors request) := by
  by_cases h : engine.Evaluates request
  · rw [map_fst_told h]
    exact (acceptedFrom_sublist _).trans soundPart_sublist
  · rw [told_eq_nil h]
    exact List.nil_sublist _

variable (engine host request state) in
/-- **What a pass does to the host** is what the calls do. -/
theorem snd_resolve : (engine.resolve host request state).2 =
    host.after state (engine.told host request state) := by
  by_cases h : engine.Evaluates request
  · rw [told_eq h, snd_resolve_of_evaluates h, decide, Decision.snd_run]
    rfl
  · rw [told_eq_nil h, snd_resolve_of_not_evaluates h]
    rfl

theorem decisions_recording : engine.decisions host.recording request (state, []) =
    engine.decisions host request state := by
  rw [decisions, decide, Decision.run_recording]
  rfl

theorem fst_resolve_recording : (engine.resolve host.recording request (state, [])).1 =
    (engine.resolve host request state).1 := by
  by_cases enabled : (engine.settingsIn request.env).enabled = true
  · rw [resolve_eq enabled, resolve_eq enabled, decisions_recording]
    by_cases valid : (engine.invalid request).isEmpty = true
    · rw [if_pos valid, if_pos valid]
      cases engine.fault? request with
      | some problem => rfl
      | none => rfl
    · rw [if_neg valid, if_neg valid]
  · rw [resolve, resolve, if_neg enabled, if_neg enabled]

theorem fst_snd_resolve_recording : (engine.resolve host.recording request (state, [])).2.1 =
    (engine.resolve host request state).2 := by
  by_cases h : engine.Evaluates request
  · rw [snd_resolve_of_evaluates h, snd_resolve_of_evaluates h, decide, Decision.run_recording]
    rfl
  · rw [snd_resolve_of_not_evaluates h, snd_resolve_of_not_evaluates h]

variable (engine host request state) in
/-- **Keeping a record changes nothing.** -/
theorem resolve_recording : engine.resolve host.recording request (state, []) =
    ((engine.resolve host request state).1, (engine.resolve host request state).2,
      engine.told host request state) :=
  Prod.ext fst_resolve_recording (Prod.ext fst_snd_resolve_recording rfl)

/-! ## Of whom the host is told -/

theorem accepts_iff {calls : List (UnitName × Option Definition)} {unit : UnitName} :
    engine.Accepts host request state calls unit ↔ Decision.fault? engine.catalog unit = none ∧
      (Decision.given (host.context engine.oracle request.env (host.after state calls))
        engine.catalog[unit]?).isAccepted = true := by
  rw [Accepts, Decision.ofDefinition_eq]
  cases Decision.fault? engine.catalog unit with
  | some problem => simp
  | none => simp

/-- The first of some units is accepted if it is not at fault and the decision is in its
favour. -/
theorem mem_acceptedFrom_soundPart {unit : UnitName} {later : List UnitName} (hu : unit ∉ later) :
    unit ∈ engine.acceptedFrom host request state (engine.soundPart (unit :: later)) ↔
      Decision.fault? engine.catalog unit = none ∧
        (Decision.given (host.context engine.oracle request.env state)
          engine.catalog[unit]?).isAccepted = true := by
  rw [soundPart, List.takeWhile_cons]
  cases Decision.fault? engine.catalog unit with
  | some problem => simp [acceptedFrom, decide, Decision.run, acceptedIn]
  | none =>
    rw [acceptedFrom, decide, Option.isNone_none, if_pos rfl, Decision.run, acceptedIn_cons]
    cases (Decision.given (host.context engine.oracle request.env state)
        engine.catalog[unit]?).isAccepted with
    | true => simp
    | false =>
      simp only [Bool.false_eq_true, if_false, and_false, iff_false]
      exact fun h => hu (List.takeWhile_subset _ ((acceptedFrom_sublist _).subset h))

section Turn

variable {earlier later : List UnitName} {unit : UnitName}
variable (hs : engine.survivors request = earlier ++ unit :: later)
include hs

theorem notMem_earlier {other : UnitName} (h : other ∈ unit :: later) : other ∉ earlier := by
  have hnodup := nodup_survivors engine request
  rw [hs, List.nodup_append] at hnodup
  exact fun he => hnodup.2.2 other he other h rfl

theorem notMem_later : unit ∉ later := by
  have hnodup := nodup_survivors engine request
  rw [hs, List.nodup_append, List.nodup_cons] at hnodup
  exact hnodup.2.1.1

/-- The units accepted in a pass: those accepted before a unit, and those from it on. -/
theorem acceptedFrom_soundPart
    (hsound : ∀ other ∈ earlier, Decision.fault? engine.catalog other = none) :
    engine.acceptedFrom host request state (engine.soundPart (engine.survivors request)) =
      engine.acceptedFrom host request state earlier ++
        engine.acceptedFrom host request (host.after state (engine.catalog.announce
          (engine.acceptedFrom host request state earlier)))
          (engine.soundPart (unit :: later)) := by
  rw [hs, soundPart_append hsound]
  exact Decision.acceptedIn_run_append ..

/-- **The calls before a unit** are those for the units accepted before it. -/
theorem filter_told (h : engine.Evaluates request)
    (hsound : ∀ other ∈ earlier, Decision.fault? engine.catalog other = none) :
    ((engine.told host request state).filter fun call => earlier.contains call.1) =
      engine.catalog.announce (engine.acceptedFrom host request state earlier) := by
  have hbefore : (engine.acceptedFrom host request state earlier).filter earlier.contains =
      engine.acceptedFrom host request state earlier := by
    rw [List.filter_eq_self]
    intro other ho
    exact List.contains_iff_mem.mpr ((acceptedFrom_sublist _).subset ho)
  have hafter : (engine.acceptedFrom host request (host.after state (engine.catalog.announce
      (engine.acceptedFrom host request state earlier)))
      (engine.soundPart (unit :: later))).filter earlier.contains = [] := by
    rw [List.filter_eq_nil_iff]
    intro other ho
    rw [List.contains_iff_mem]
    exact notMem_earlier hs (soundPart_sublist.subset ((acceptedFrom_sublist _).subset ho))
  have hnames : (fun call : UnitName × Option Definition => earlier.contains call.1) ∘
      (fun unit => (unit, engine.catalog[unit]?)) = earlier.contains := rfl
  rw [told_eq h, Catalog.announce, List.filter_map, hnames, acceptedFrom_soundPart hs hsound,
    List.filter_append, hbefore, hafter, List.append_nil]
  rfl

/-- **The host is told of a unit** exactly if the evaluation comes to it and the decision is in
its favour, in the state to which the calls for the units before it have brought the host. -/
theorem mem_told_iff : unit ∈ (engine.told host request state).map Prod.fst ↔
    engine.Evaluates request ∧
      (∀ other ∈ earlier, Decision.fault? engine.catalog other = none) ∧
      engine.Accepts host request state
        ((engine.told host request state).filter fun call => earlier.contains call.1) unit := by
  by_cases h : engine.Evaluates request
  · rw [and_iff_right h]
    by_cases hsound : ∀ other ∈ earlier, Decision.fault? engine.catalog other = none
    · have hbefore : unit ∉ engine.acceptedFrom host request state earlier := fun hu =>
        notMem_earlier hs List.mem_cons_self ((acceptedFrom_sublist _).subset hu)
      rw [and_iff_right hsound, filter_told hs h hsound, map_fst_told h,
        acceptedFrom_soundPart hs hsound, List.mem_append, or_iff_right hbefore,
        mem_acceptedFrom_soundPart (notMem_later hs), accepts_iff]
    · have hafter : unit ∉ engine.soundPart (engine.survivors request) := fun hu =>
        notMem_earlier hs List.mem_cons_self (soundPart_append_subset hsound _ (hs ▸ hu))
      rw [map_fst_told h]
      exact iff_of_false (fun hu => hafter ((acceptedFrom_sublist _).subset hu))
        fun hall => hsound hall.1
  · rw [told_eq_nil h]
    exact iff_of_false List.not_mem_nil fun hall => h hall.1

end Turn

/-! ## The calls by how a pass ends -/

variable (engine host request state) in
/-- **Of which units the host has heard**, by what the pass gives out: of the accepted ones,
or of none if the engine is switched off; of none if exclusions are forbidden, of those
accepted before the unit at fault, and of all that were accepted if they cannot be arranged. -/
def Heard (units : List UnitName) : Except Failure Resolution → Prop
  | .ok resolution => if resolution.disabled then units = [] else units.Perm resolution.accepted
  | .error (.invalidExclusions _) => units = []
  | .error (.malformed problem) => ∃ earlier later,
      engine.survivors request = earlier ++ problem.unit :: later ∧
        units = engine.acceptedFrom host request state earlier
  | .error (.notInteger _) | .error (.cycle _) =>
      units = engine.acceptedFrom host request state (engine.survivors request)

variable (engine host request state) in
theorem heard_told : engine.Heard host request state
    ((engine.told host request state).map Prod.fst) (engine.resolve host request state).1 := by
  have hends := resolve_ends engine host request state
  generalize engine.resolve host request state = ended at hends
  cases hends with
  | switchedOff off =>
    rw [told_eq_nil fun h => absurd h.1 (off ▸ Bool.false_ne_true), Heard,
      Resolution.switchedOff, if_pos rfl]
    rfl
  | forbidden _ invalid =>
    rw [told_eq_nil fun h => invalid h.2]
    rfl
  | atFault enabled valid found =>
    obtain ⟨earlier, unit, later, hs, hfault, hsound⟩ := List.findSome?_eq_some_iff.mp found
    have hunit := (Decision.fault?_eq_some_iff.mp hfault).unit_eq
    have hstop : engine.soundPart (unit :: later) = [] := by
      rw [soundPart, List.takeWhile_cons, hfault]
      rfl
    rw [map_fst_told ⟨enabled, valid⟩, hs, soundPart_append hsound, hstop, List.append_nil]
    exact ⟨earlier, later, hunit ▸ hs, rfl⟩
  | unreadable enabled valid sound _ =>
    rw [map_fst_told ⟨enabled, valid⟩, soundPart_survivors sound]
    rfl
  | cyclic enabled valid sound _ _ _ =>
    rw [map_fst_told ⟨enabled, valid⟩, soundPart_survivors sound]
    rfl
  | completed completes =>
    have hactive := (resolve_eq_ok_iff.mpr completes).2
    rw [map_fst_told ⟨completes.enabled, completes.valid⟩, soundPart_survivors completes.sound,
      Heard, hactive, if_neg Bool.false_ne_true]
    exact completes.accepted_perm.symm

/-- **Who is told of what.**  A pass with a host does the same as one with a host that also
keeps a record; the record holds the calls.  They are for units to be evaluated, once each
and in the order of the candidates, and each comes with the definition of its unit.  The host
is told of a unit exactly if the evaluation reaches it and the decision is in its favour, in
the state to which the calls for the units before it have brought the host.  If the pass is
given out, these are the accepted units, or none if the engine is switched off; if it fails,
none for forbidden exclusions, those accepted before the unit at fault, or all that were
accepted.  The calls are all that a pass does to the host: the registering host ends with the
beans of these units registered in the current scope and with the enclosing scopes as they
were, and the silent host with the registry as it was. -/
theorem resolve_notifies :
    (∀ {σ : Type} (engine : Engine) (host : Host σ) (request : Request) (state : σ),
      engine.resolve host.recording request (state, []) =
        ((engine.resolve host request state).1, (engine.resolve host request state).2,
          engine.told host request state) ∧
      (((engine.told host request state).map Prod.fst).Pairwise fun first second =>
        request.candidates.idxOf first < request.candidates.idxOf second) ∧
      (∀ call ∈ engine.told host request state,
        call.1 ∈ engine.survivors request ∧ call.2 = engine.catalog[call.1]?) ∧
      (∀ earlier unit later, engine.survivors request = earlier ++ unit :: later →
        (unit ∈ (engine.told host request state).map Prod.fst ↔
          (engine.settingsIn request.env).enabled = true ∧
          (∀ other, ¬engine.Forbids request other) ∧
          (∀ other ∈ earlier, ¬Decision.AtFault engine.catalog other) ∧
          engine.Accepts host request state
            ((engine.told host request state).filter fun call => earlier.contains call.1)
            unit)) ∧
      engine.Heard host request state ((engine.told host request state).map Prod.fst)
        (engine.resolve host request state).1 ∧
      (engine.resolve host request state).2 =
        host.after state (engine.told host request state)) ∧
    ∀ (engine : Engine) (request : Request) (registry : Registry),
      (engine.resolve .registering request registry).2.current =
        registry.current.registerAll ((engine.told .registering request registry).flatMap
          fun call => Definition.providedBy call.2) ∧
      (engine.resolve .registering request registry).2.ancestors = registry.ancestors ∧
      (engine.resolve .silent request registry).2 = registry := by
  refine ⟨?_, ?_⟩
  · intro σ engine host request state
    refine ⟨resolve_recording engine host request state, pairwise_survivors.sublist told_sublist,
      ?_, ?_, heard_told engine host request state, snd_resolve engine host request state⟩
    · intro call hc
      refine ⟨told_sublist.subset (List.mem_map_of_mem hc), ?_⟩
      rw [told_eq_announce, Catalog.announce, List.mem_map] at hc
      obtain ⟨unit, -, rfl⟩ := hc
      rfl
    · intro earlier unit later hs
      rw [mem_told_iff hs, Evaluates, invalid_eq_nil_iff_forall, and_assoc]
      simp only [Decision.fault?_eq_none_iff_not_atFault]
  · intro engine request registry
    rw [snd_resolve, snd_resolve, Host.after_registering, Host.after_silent]
    exact ⟨rfl, rfl, rfl⟩

/-- Of a store and its fallback, the host is told of the store alone, and the only bean that
it has in the end is the one of the store. -/
theorem resolve_notifies_store :
    storeEngine.survivors storeRequest = [] ++ "store" :: ["fallback"] ∧
    (storeEngine.told .registering storeRequest {}).map Prod.fst = ["store"] ∧
    storeEngine.Accepts .registering storeRequest {} [] "store" ∧
    (storeEngine.resolve .registering storeRequest {}).2.current =
      Scope.ofList [{ name := "store", types := ["Store"] }] := by
  obtain ⟨hpass, heffects⟩ := resolve_notifies
  obtain ⟨-, -, -, hturn, hheard, -⟩ := hpass storeEngine .registering storeRequest {}
  have hs : storeEngine.survivors storeRequest = [] ++ "store" :: ["fallback"] := by decide
  have htold : (storeEngine.told .registering storeRequest {}).map Prod.fst = ["store"] := by
    obtain ⟨resolution, final, h⟩ := storeRequest_completes
    obtain ⟨hok, hactive⟩ := resolve_eq_ok_iff.mpr h
    have haccepted : acceptedIn (storeEngine.decisions .registering storeRequest {}) =
        ["store"] := by decide
    rw [hok, Heard, hactive, if_neg Bool.false_ne_true] at hheard
    exact List.perm_singleton.mp (haccepted ▸ hheard.trans h.accepted_perm)
  have hstore : "store" ∈ (storeEngine.told .registering storeRequest {}).map Prod.fst := by
    rw [htold]
    exact List.mem_singleton_self _
  have hbeans : (storeEngine.told .registering storeRequest {}).flatMap
      (fun call => Definition.providedBy call.2) = [{ name := "store", types := ["Store"] }] := by
    rw [told_eq_announce, htold]
    decide
  obtain ⟨-, -, -, haccepts⟩ := (hturn [] "store" ["fallback"] hs).mp hstore
  refine ⟨hs, htold, ?_, ?_⟩
  · have hnone : (storeEngine.told .registering storeRequest {}).filter
        (fun call => List.contains [] call.1) = [] := List.filter_false _
    rwa [hnone] at haccepts
  · rw [(heffects storeEngine storeRequest {}).1, hbeans]
    rfl

end Engine
end Activation
