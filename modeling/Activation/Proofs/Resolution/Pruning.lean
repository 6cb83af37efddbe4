import Activation.Proofs.Resolution.Notifications

/-!
# Excluding a unit is not offering it

An excluded unit is taken out of the candidates before anything else looks at them.  So a
pass with exclusions is as good as a pass over the other candidates without any
(`Request.pruned`): the stages have the same units before them, and no exclusion is left
that could be an error.  All that the second pass does not know is which units were
excluded.

* `Request.mem_exclusions_iff`: the exclusions of a request are the units that it excludes,
  if its properties exclude none.
* `Request.kept_pruned`: what is left of the candidates is the same.
* `Engine.resolve_pruned`: so the two passes tell the host the same and come to the same
  end.
-/

namespace Activation

namespace Request

/-- **A request excludes a unit** outright, or by a name that is not blank and bears the unit
between its blanks. -/
def Excludes (request : Request) (unit : UnitName) : Prop :=
  unit ∈ request.exclude ∨ unit ≠ "" ∧ ∃ name ∈ request.excludeNames, Text.trim name = unit

instance (request : Request) : DecidablePred request.Excludes := fun _ =>
  inferInstanceAs (Decidable (_ ∨ _ ∧ _))

/-- **A request without the units that it excludes**: they are not offered, and nothing is
excluded. -/
def pruned (request : Request) : Request where
  candidates := request.candidates.filter fun unit => ¬request.Excludes unit
  env := request.env

/-- Without exclusions every candidate is left. -/
theorem kept_eq_names {request : Request} (h : request.exclusions = []) :
    request.kept = request.names := by
  rw [kept, h, Exclusion.kept, List.filter_eq_self]
  exact fun unit _ => rfl

section Undeclared

variable {request : Request} (undeclared : request.env.items Exclusion.property = [])
include undeclared

/-- The exclusions are the units that the request excludes. -/
theorem mem_exclusions_iff {unit : UnitName} :
    unit ∈ request.exclusions ↔ request.Excludes unit := by
  rw [mem_exclusions, offered, undeclared, List.append_nil, List.mem_append, Excludes,
    List.mem_filter, List.mem_map, and_comm, Bool.not_eq_true', String.isEmpty_eq_false_iff]

theorem exclusions_pruned : request.pruned.exclusions = [] := by
  rw [exclusions, Exclusion.collect, pruned, undeclared]
  rfl

/-- **The same candidates are left.** -/
theorem kept_pruned : request.pruned.kept = request.kept := by
  rw [kept_eq_names (exclusions_pruned undeclared), names, pruned, Exclusion.distinct,
    Repetition.eraseDups_filter, kept, Exclusion.kept]
  refine List.filter_congr fun unit _ => ?_
  rw [Bool.eq_iff_iff, decide_eq_true_iff, ← mem_exclusions_iff undeclared]
  simp

end Undeclared

end Request

/-- **The verdicts of a pass**: the units that it accepts, in their order, and those that it
rejects, with the outcomes against them. -/
def Resolution.verdicts (resolution : Resolution) :
    List UnitName × Std.ExtTreeMap UnitName (List Outcome) :=
  (resolution.accepted, resolution.rejected)

namespace Engine

variable {σ : Type} {engine : Engine} {host : Host σ} {request : Request} {state : σ}

section Undeclared

variable (undeclared : request.env.items Exclusion.property = [])
include undeclared

/-- No exclusion is left that could be an error. -/
theorem invalid_pruned : engine.invalid request.pruned = [] :=
  invalid_of_unrestricted (Request.exclusions_pruned undeclared)

/-- The same units are evaluated. -/
theorem survivors_pruned : engine.survivors request.pruned = engine.survivors request := by
  rw [survivors, survivors, Request.kept_pruned undeclared]
  rfl

/-- The same units are sorted out, for the same reasons. -/
theorem sortedOut_pruned : engine.sortedOut request.pruned = engine.sortedOut request := by
  rw [sortedOut, sortedOut, Request.kept_pruned undeclared]
  rfl

theorem fault?_pruned : engine.fault? request.pruned = engine.fault? request := by
  rw [fault?, fault?, survivors_pruned undeclared]

/-- The same decisions are made about them. -/
theorem decisions_pruned :
    engine.decisions host request.pruned state = engine.decisions host request state := by
  rw [decisions, decisions, survivors_pruned undeclared]
  rfl

variable (valid : engine.invalid request = [])
include valid

/-- **The host is told the same.** -/
theorem told_pruned : engine.told host request.pruned state = engine.told host request state := by
  by_cases enabled : (engine.settingsIn request.env).enabled = true
  · have hpruned : engine.Evaluates request.pruned := ⟨enabled, invalid_pruned undeclared⟩
    rw [told_eq hpruned, told_eq ⟨enabled, valid⟩, survivors_pruned undeclared]
    rfl
  · have hpruned : ¬engine.Evaluates request.pruned := fun h => enabled h.1
    rw [told_eq_nil hpruned, told_eq_nil fun h => enabled h.1]

/-- **The verdicts are the same**, or the failure is. -/
theorem verdicts_pruned (enabled : (engine.settingsIn request.env).enabled = true) :
    (engine.resolve host request.pruned state).1.map Resolution.verdicts =
      (engine.resolve host request state).1.map Resolution.verdicts := by
  have hpruned : (engine.settingsIn request.pruned.env).enabled = true := enabled
  rw [resolve_eq hpruned, resolve_eq enabled, invalid_pruned undeclared, valid,
    fault?_pruned undeclared, decisions_pruned undeclared]
  cases engine.fault? request with
  | some problem => rfl
  | none =>
    cases Order.arrange engine.index engine.catalog
        (acceptedIn (engine.decisions host request state)) with
    | error failure => rfl
    | ok accepted =>
      have hrejected : rejectedIn (engine.sortedOut request.pruned)
          (engine.decisions host request state) =
            rejectedIn (engine.sortedOut request) (engine.decisions host request state) := by
        rw [sortedOut_pruned undeclared]
      exact congrArg (fun rejected => Except.ok (accepted, rejected)) hrejected

end Undeclared

/-- **Excluding a unit is the same as never offering it.**  Let a pass be switched on, let the
properties exclude nothing, and let no exclusion of the request be forbidden.  Then a pass over
the candidates without the excluded ones, and with no exclusions, tells the host of the same
units in the same order, with the same definitions, and leaves it in the same state.  It accepts
the same units in the same order and rejects the same units with the same outcomes, or it fails
in the same way.  And if it succeeds, the excluded units are the candidates that the request
excludes, each once, in the order in which they were first offered. -/
theorem resolve_pruned {σ : Type} (engine : Engine) (host : Host σ) (request : Request)
    (state : σ) (enabled : (engine.settingsIn request.env).enabled = true)
    (undeclared : request.env.items Exclusion.property = [])
    (permitted : ∀ unit, ¬engine.Forbids request unit) :
    engine.told host request.pruned state = engine.told host request state ∧
    (engine.resolve host request.pruned state).2 = (engine.resolve host request state).2 ∧
    (engine.resolve host request.pruned state).1.map Resolution.verdicts =
      (engine.resolve host request state).1.map Resolution.verdicts ∧
    ∀ resolution, (engine.resolve host request state).1 = .ok resolution →
      (∀ unit, unit ∈ resolution.excluded ↔
        unit ∈ request.candidates ∧ request.Excludes unit) ∧
      resolution.excluded.Pairwise fun first second =>
        request.candidates.idxOf first < request.candidates.idxOf second := by
  have valid : engine.invalid request = [] := invalid_eq_nil_iff_forall.mpr permitted
  have htold : engine.told host request.pruned state = engine.told host request state :=
    told_pruned undeclared valid
  refine ⟨htold, ?_, verdicts_pruned undeclared valid enabled, ?_⟩
  · rw [snd_resolve, snd_resolve, htold]
  · intro resolution success
    have h := Completes.of_eq_ok enabled (Prod.ext success rfl)
    refine ⟨fun unit => ?_, ?_⟩
    · rw [h.mem_excluded, Request.mem_exclusions_iff undeclared]
    · rw [h.excluded_eq]
      exact (Repetition.pairwise_idxOf_eraseDups request.candidates).filter _

/-- A request that excludes the store, by a name between blanks, and the log. -/
def bareRequest : Request where
  candidates := ["store", "cache", "log", "store", "fallback"]
  exclude := ["log"]
  excludeNames := [" store ", ""]

/-- Without the store, its fallback is accepted, as if the store had never been offered. -/
theorem resolve_pruned_bare :
    (storeEngine.settingsIn bareRequest.env).enabled = true ∧
    bareRequest.env.items Exclusion.property = [] ∧
    (∀ unit, ¬storeEngine.Forbids bareRequest unit) ∧
    bareRequest.pruned.candidates = ["cache", "fallback"] ∧
    ∃ resolution, (storeEngine.resolve .registering bareRequest {}).1 = .ok resolution ∧
      resolution.accepted = ["fallback"] ∧ "store" ∈ resolution.excluded ∧
      (storeEngine.resolve .registering bareRequest.pruned {}).1.map Resolution.verdicts =
        .ok resolution.verdicts := by
  have enabled : (storeEngine.settingsIn bareRequest.env).enabled = true := by decide
  have undeclared : bareRequest.env.items Exclusion.property = [] := by decide
  have valid : storeEngine.invalid bareRequest = [] := by decide
  have haccepted : acceptedIn (storeEngine.decisions .registering bareRequest {}) =
      ["fallback"] := by decide
  have hstore : bareRequest.Excludes "store" :=
    Or.inr ⟨by decide, " store ", by decide, by decide⟩
  obtain ⟨resolution, _, h⟩ : ∃ resolution final,
      storeEngine.Completes .registering bareRequest {} resolution final :=
    storeEngine_completes Host.registering {} rfl (by decide) valid
  have success := congrArg Prod.fst (resolve_eq_ok_iff.mpr h).1
  obtain ⟨-, -, hverdicts, hexcluded⟩ := resolve_pruned storeEngine Host.registering bareRequest {}
    enabled undeclared (invalid_eq_nil_iff_forall.mp valid)
  refine ⟨enabled, undeclared, invalid_eq_nil_iff_forall.mp valid, by decide, resolution,
    success, ?_, ?_, ?_⟩
  · exact List.perm_singleton.mp (haccepted ▸ h.accepted_perm)
  · exact ((hexcluded resolution success).1 "store").mpr ⟨by decide, hstore⟩
  · rw [hverdicts, success]
    rfl

end Engine
end Activation
