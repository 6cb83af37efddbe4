import Activation.Proofs.Prefilter
import Activation.Proofs.Repetition
import Activation.Proofs.Resolution.Evaluation
import Activation.Resolution

/-!
# What a pass goes through

A pass is put together from parts that are known apart: the exclusions that are
errors, the units that survive the pre-filter, the first of these with a rule at
fault, the decisions about them, and the order of the accepted ones.  Each of these
is read off the engine and the request here, without running anything before it.

* `Engine.resolve_eq`: a pass that is switched on, in terms of these parts.
* `Engine.Completes`: what they are when a pass succeeds; `resolve_eq_ok_iff` says
  that a pass succeeds exactly then.
-/

namespace Activation

namespace Request

/-- The names of the candidates, each at its first place. -/
def names (request : Request) : List UnitName :=
  Exclusion.distinct request.candidates

/-- The exclusions that a request collects. -/
def exclusions (request : Request) : List UnitName :=
  Exclusion.collect request.exclude request.excludeNames request.env

/-- The candidates that are left after the exclusions. -/
def kept (request : Request) : List UnitName :=
  Exclusion.kept request.names request.exclusions

theorem mem_names {request : Request} {unit : UnitName} :
    unit ∈ request.names ↔ unit ∈ request.candidates :=
  List.mem_eraseDups

theorem nodup_names (request : Request) : request.names.Nodup :=
  Repetition.nodup_eraseDups request.candidates

theorem mem_kept {request : Request} {unit : UnitName} :
    unit ∈ request.kept ↔ unit ∈ request.candidates ∧ unit ∉ request.exclusions := by
  rw [kept, Exclusion.kept, List.mem_filter, mem_names]
  simp

theorem nodup_kept (request : Request) : request.kept.Nodup :=
  request.nodup_names.filter _

end Request

namespace Engine

/-- The exclusions of a request that are errors. -/
def invalid (engine : Engine) (request : Request) : List UnitName :=
  Exclusion.invalid request.names request.exclusions engine.oracle
    (engine.settingsIn request.env).policy

/-- The outcome of the pre-filter against a unit. -/
def against? (engine : Engine) (env : Environment) (unit : UnitName) : Option Outcome :=
  (engine.chain (engine.settingsIn env)).against? engine.index engine.oracle unit

/-- The units to be evaluated. -/
def survivors (engine : Engine) (request : Request) : List UnitName :=
  request.kept.filter fun unit => (engine.against? request.env unit).isNone

/-- The units that the pre-filter sorts out, with the outcomes against them. -/
def sortedOut (engine : Engine) (request : Request) : List (UnitName × Outcome) :=
  request.kept.filterMap fun unit =>
    (engine.against? request.env unit).map fun outcome => (unit, outcome)

/-- The first rule at fault among the units to be evaluated. -/
def fault? (engine : Engine) (request : Request) : Option Malformed :=
  (engine.survivors request).findSome? (Decision.fault? engine.catalog)

/-- The decisions about some units that start in a state of the host, and the state
afterwards. -/
def decide {σ : Type} (engine : Engine) (host : Host σ) (env : Environment) (state : σ)
    (units : List UnitName) : List (UnitName × Decision) × σ :=
  Decision.run host engine.oracle engine.catalog env state units

/-- The decisions of a pass. -/
def decisions {σ : Type} (engine : Engine) (host : Host σ) (request : Request) (state : σ) :
    List (UnitName × Decision) :=
  (engine.decide host request.env state (engine.survivors request)).1

/-- The host after the units to be evaluated have been decided. -/
def hostAfter {σ : Type} (engine : Engine) (host : Host σ) (request : Request) (state : σ) : σ :=
  (engine.decide host request.env state (engine.survivors request)).2

/-- What a pass with given decisions finds out, once the accepted units are arranged. -/
def resolutionOf (engine : Engine) (request : Request) (decisions : List (UnitName × Decision))
    (accepted : List UnitName) : Resolution where
  accepted := accepted
  rejected := rejectedIn (engine.sortedOut request) decisions
  excluded := Exclusion.excluded request.names request.exclusions
  report := reportOn request.exclusions (engine.sortedOut request) decisions

/-- Without exclusions none is an error. -/
theorem invalid_of_unrestricted {engine : Engine} {request : Request}
    (unrestricted : request.exclusions = []) : engine.invalid request = [] := by
  rw [invalid, unrestricted]
  rfl

theorem survivors_prefilter (engine : Engine) (request : Request) :
    FilterChain.survivors (engine.prefilter (engine.settingsIn request.env) request.kept) =
      engine.survivors request :=
  FilterChain.survivors_apply ..

theorem rejected_prefilter (engine : Engine) (request : Request) :
    FilterChain.rejected (engine.prefilter (engine.settingsIn request.env) request.kept) =
      engine.sortedOut request :=
  FilterChain.rejected_apply ..

theorem mem_survivors {engine : Engine} {request : Request} {unit : UnitName} :
    unit ∈ engine.survivors request ↔
      unit ∈ request.kept ∧ engine.against? request.env unit = none := by
  rw [survivors, List.mem_filter, Option.isNone_iff_eq_none]

theorem nodup_survivors (engine : Engine) (request : Request) :
    (engine.survivors request).Nodup :=
  request.nodup_kept.filter _

theorem mem_sortedOut {engine : Engine} {request : Request} {unit : UnitName}
    {outcome : Outcome} :
    (unit, outcome) ∈ engine.sortedOut request ↔
      unit ∈ request.kept ∧ engine.against? request.env unit = some outcome := by
  rw [sortedOut, List.mem_filterMap]
  constructor
  · rintro ⟨other, hk, ho⟩
    obtain ⟨against, ha, he⟩ := Option.map_eq_some_iff.mp ho
    cases he
    exact ⟨hk, ha⟩
  · rintro ⟨hk, ha⟩
    exact ⟨unit, hk, by rw [ha, Option.map_some]⟩

/-! ## A pass that is switched on -/

variable {σ : Type} {engine : Engine} {host : Host σ} {request : Request} {state : σ}

/-- An evaluation that comes to a rule at fault ends there. -/
theorem resolveDistinct_of_fault {problem : Malformed} (h : engine.fault? request = some problem) :
    engine.resolveDistinct host (engine.settingsIn request.env) request.env request.names
        request.exclusions state =
      (.error (.malformed problem), (engine.decide host request.env state
        ((engine.survivors request).takeWhile fun unit =>
          (Decision.fault? engine.catalog unit).isNone)).2) := by
  have hsurvivors : FilterChain.survivors (engine.prefilter (engine.settingsIn request.env)
      (Exclusion.kept request.names request.exclusions)) = engine.survivors request :=
    survivors_prefilter engine request
  rw [resolveDistinct, hsurvivors,
    Decision.forEach_of_fault host engine.oracle engine.catalog request.env h]
  rfl

/-- An evaluation without a rule at fault goes on to the order. -/
theorem resolveDistinct_of_no_fault (h : engine.fault? request = none) :
    engine.resolveDistinct host (engine.settingsIn request.env) request.env request.names
        request.exclusions state =
      ((Order.arrange engine.index engine.catalog
          (acceptedIn (engine.decisions host request state))).map
        (engine.resolutionOf request (engine.decisions host request state)),
      engine.hostAfter host request state) := by
  have hsurvivors : FilterChain.survivors (engine.prefilter (engine.settingsIn request.env)
      (Exclusion.kept request.names request.exclusions)) = engine.survivors request :=
    survivors_prefilter engine request
  have hsorted : FilterChain.rejected (engine.prefilter (engine.settingsIn request.env)
      (Exclusion.kept request.names request.exclusions)) = engine.sortedOut request :=
    rejected_prefilter engine request
  rw [resolveDistinct, hsurvivors, hsorted,
    Decision.forEach_of_no_fault host engine.oracle engine.catalog request.env h]
  rfl

/-- **A pass** fails because of its exclusions, because of a rule at fault, or because
the accepted units cannot be arranged; otherwise it finds out what its decisions say. -/
theorem resolve_eq (enabled : (engine.settingsIn request.env).enabled = true) :
    engine.resolve host request state =
      if (engine.invalid request).isEmpty then
        match engine.fault? request with
        | some problem => (.error (.malformed problem),
            (engine.decide host request.env state ((engine.survivors request).takeWhile fun unit =>
              (Decision.fault? engine.catalog unit).isNone)).2)
        | none => ((Order.arrange engine.index engine.catalog
              (acceptedIn (engine.decisions host request state))).map
            (engine.resolutionOf request (engine.decisions host request state)),
          engine.hostAfter host request state)
      else (.error (.invalidExclusions (engine.invalid request)), state) := by
  have hpass : engine.resolve host request state =
      if (engine.invalid request).isEmpty then
        engine.resolveDistinct host (engine.settingsIn request.env) request.env request.names
          request.exclusions state
      else (.error (.invalidExclusions (engine.invalid request)), state) := by
    rw [resolve, if_pos enabled]
    rfl
  rw [hpass]
  by_cases hv : (engine.invalid request).isEmpty = true
  · rw [if_pos hv, if_pos hv]
    cases hf : engine.fault? request with
    | some problem => exact resolveDistinct_of_fault hf
    | none => exact resolveDistinct_of_no_fault hf
  · rw [if_neg hv, if_neg hv]

variable (host state) in
/-- A pass that is switched off does nothing. -/
theorem resolve_eq_switchedOff (off : ¬(engine.settingsIn request.env).enabled = true) :
    engine.resolve host request state = (.ok .switchedOff, state) := by
  rw [resolve, if_neg off]

/-- **What a successful pass went through.** -/
structure Completes {σ : Type} (engine : Engine) (host : Host σ) (request : Request) (state : σ)
    (resolution : Resolution) (final : σ) : Prop where
  /-- The engine is switched on. -/
  enabled : (engine.settingsIn request.env).enabled = true
  /-- No exclusion is an error. -/
  valid : engine.invalid request = []
  /-- No rule is at fault. -/
  sound : engine.fault? request = none
  /-- The accepted units are arranged. -/
  arranged : Order.arrange engine.index engine.catalog
    (acceptedIn (engine.decisions host request state)) = .ok resolution.accepted
  /-- The pass finds out what its decisions say. -/
  resolution_eq : resolution =
    engine.resolutionOf request (engine.decisions host request state) resolution.accepted
  /-- The host ends where the evaluation leaves it. -/
  final_eq : final = engine.hostAfter host request state

variable (engine host request state) in
/-- A pass over units that can be arranged succeeds if nothing else is in its way. -/
theorem Completes.exists_of_arrange (enabled : (engine.settingsIn request.env).enabled = true)
    (valid : engine.invalid request = []) (sound : engine.fault? request = none)
    (arranged : ∃ order, Order.arrange engine.index engine.catalog
      (acceptedIn (engine.decisions host request state)) = .ok order) :
    ∃ resolution, engine.Completes host request state resolution
      (engine.hostAfter host request state) := by
  obtain ⟨order, ho⟩ := arranged
  exact ⟨engine.resolutionOf request (engine.decisions host request state) order,
    enabled, valid, sound, ho, rfl, rfl⟩

/-- A pass that is switched on and succeeds goes through its stages. -/
theorem Completes.of_eq_ok (enabled : (engine.settingsIn request.env).enabled = true)
    {resolution : Resolution} {final : σ}
    (h : engine.resolve host request state = (.ok resolution, final)) :
    engine.Completes host request state resolution final := by
  rw [resolve_eq enabled] at h
  by_cases hv : (engine.invalid request).isEmpty = true
  · rw [if_pos hv] at h
    cases hf : engine.fault? request with
    | some problem =>
      rw [hf] at h
      exact nomatch h
    | none =>
      rw [hf] at h
      cases ha : Order.arrange engine.index engine.catalog
          (acceptedIn (engine.decisions host request state)) with
      | error failure =>
        simp only [ha] at h
        exact nomatch h
      | ok accepted =>
        simp only [ha] at h
        cases h
        exact ⟨enabled, List.isEmpty_iff.mp hv, hf, ha, rfl, rfl⟩
  · rw [if_neg hv] at h
    exact nomatch h

/-- **A pass succeeds**, and is not switched off, exactly if it goes through its stages. -/
theorem resolve_eq_ok_iff {resolution : Resolution} {final : σ} :
    engine.resolve host request state = (.ok resolution, final) ∧ resolution.disabled = false ↔
      engine.Completes host request state resolution final := by
  constructor
  · rintro ⟨hok, hactive⟩
    by_cases enabled : (engine.settingsIn request.env).enabled = true
    · exact Completes.of_eq_ok enabled hok
    · rw [resolve, if_neg enabled] at hok
      cases hok
      exact nomatch hactive
  · rintro ⟨enabled, valid, sound, arranged, hresolution, hfinal⟩
    have hv : (engine.invalid request).isEmpty = true := by rw [valid]; rfl
    rw [resolve_eq enabled, if_pos hv, sound, hfinal]
    simp only [arranged]
    refine ⟨?_, ?_⟩
    · rw [Except.map, ← hresolution]
    · rw [hresolution]
      rfl

end Engine
end Activation
