import Activation.Proofs.Resolution.Places
import Activation.Proofs.Verdict

/-!
# How a pass ends

A pass that is switched on can fail in four ways, each in a stage of its own: an exclusion
is forbidden, a unit to be evaluated is at fault, the precedence of an accepted unit cannot
be read, or the accepted units go round in a circle.  The stages follow each other, so one
of these is only looked for when none of the earlier ones was found.

Each of the four has a description of its own, which mentions no stage: `Engine.Forbids`,
`Decision.AtFault`, `Hints.Unreadable` and `Order.Cyclic`.

* `Engine.resolve_ends`: the six ways in which a pass ends, with what is known in each.
* `Engine.resolve_fails_iff`: a pass fails exactly if one of the four is found, and names
  the first of its kind.
-/

namespace Activation

namespace Request

/-- The exclusions that a request offers, as they come: the outright ones, then the names
without their blanks, then the items of the property. -/
def offered (request : Request) : List UnitName :=
  request.exclude ++ (request.excludeNames.map Text.trim).filter (fun name => !name.isEmpty) ++
    request.env.items Exclusion.property

theorem mem_exclusions {request : Request} {unit : UnitName} :
    unit ∈ request.exclusions ↔ unit ∈ request.offered :=
  List.mem_eraseDups

end Request

/-! ## Units at fault -/

namespace Decision

variable {catalog : Catalog} {unit : UnitName} {problem : Malformed}

/-- **A unit is at fault**: some rule of its definition is. -/
def AtFault (catalog : Catalog) (unit : UnitName) : Prop :=
  ∃ definition, catalog[unit]? = some definition ∧ ∃ rule ∈ definition.rules, rule.fault? ≠ none

/-- **The first rule of a unit that is at fault** is the one of which a problem tells. -/
def FirstFault (catalog : Catalog) (unit : UnitName) (problem : Malformed) : Prop :=
  ∃ definition sound rule rest, catalog[unit]? = some definition ∧
    definition.rules = sound ++ rule :: rest ∧ (∀ other ∈ sound, other.fault? = none) ∧
    rule.fault? = some problem.fault ∧ problem.kind = rule.kind ∧ problem.unit = unit

theorem FirstFault.unit_eq (h : FirstFault catalog unit problem) : problem.unit = unit := by
  obtain ⟨-, -, -, -, -, -, -, -, -, hunit⟩ := h
  exact hunit

theorem fault?_eq_some_iff :
    fault? catalog unit = some problem ↔ FirstFault catalog unit problem := by
  rw [fault?, Option.bind_eq_some_iff, FirstFault]
  refine exists_congr fun definition => ?_
  rw [List.findSome?_eq_some_iff]
  simp only [Rule.malformed?_eq_some_iff, Rule.malformed?_eq_none_iff]
  constructor
  · rintro ⟨hd, sound, rule, rest, hrules, hf, hsound⟩
    exact ⟨sound, rule, rest, hd, hrules, hsound, hf⟩
  · rintro ⟨sound, rule, rest, hd, hrules, hsound, hf⟩
    exact ⟨hd, sound, rule, rest, hrules, hf, hsound⟩

theorem fault?_eq_none_iff_not_atFault : fault? catalog unit = none ↔ ¬AtFault catalog unit := by
  rw [fault?, Option.bind_eq_none_iff]
  simp only [List.findSome?_eq_none_iff, Rule.malformed?_eq_none_iff]
  constructor
  · rintro h ⟨definition, hd, rule, hr, hf⟩
    exact hf (h definition hd rule hr)
  · intro h definition hd rule hr
    by_contra hf
    exact h ⟨definition, hd, rule, hr, hf⟩

end Decision

/-! ## Precedences that cannot be read -/

namespace Hints

variable {index : Metadata} {catalog : Catalog} {unit : UnitName}

/-- **The precedence of a unit cannot be read**: its definition sets none, and the index
has a value for it that is no whole number of 32 bits. -/
def Unreadable (index : Metadata) (catalog : Catalog) (unit : UnitName) (value : String) : Prop :=
  catalog[unit]?.bind Definition.order = none ∧
    index.get? unit Metadata.orderKey = some value ∧ Text.readInt32? (Text.trim value) = none

theorem problem?_eq_some_iff {problem : NotInteger} :
    problem? index catalog unit = some problem ↔ ∃ value,
      Unreadable index catalog unit value ∧
        problem = ⟨Metadata.fullKey unit Metadata.orderKey, value⟩ := by
  rw [problem?, readOrder]
  simp only [Unreadable]
  cases catalog[unit]?.bind Definition.order with
  | some order => simp
  | none =>
    rw [Metadata.integer?]
    cases index.get? unit Metadata.orderKey with
    | none => simp [Except.map]
    | some value =>
      cases hread : Text.readInt32? (Text.trim value) with
      | some n => simp [Except.map, hread]
      | none => simp [Except.map, hread, eq_comm]

theorem problem?_eq_none_iff_readable :
    problem? index catalog unit = none ↔ ∀ value, ¬Unreadable index catalog unit value := by
  rw [Option.eq_none_iff_forall_ne_some]
  constructor
  · intro h value hv
    exact h _ (problem?_eq_some_iff.mpr ⟨value, hv, rfl⟩)
  · intro h problem hp
    obtain ⟨value, hv, -⟩ := problem?_eq_some_iff.mp hp
    exact h value hv

theorem findSome?_problem?_eq_some_iff {units : List UnitName} {problem : NotInteger} :
    units.findSome? (problem? index catalog) = some problem ↔ ∃ earlier unit later,
      units = earlier ++ unit :: later ∧
        (∀ other ∈ earlier, ∀ value, ¬Unreadable index catalog other value) ∧
        ∃ value, Unreadable index catalog unit value ∧
          problem = ⟨Metadata.fullKey unit Metadata.orderKey, value⟩ := by
  rw [List.findSome?_eq_some_iff]
  simp only [problem?_eq_some_iff, problem?_eq_none_iff_readable]
  refine exists_congr fun earlier => exists_congr fun unit => exists_congr fun later => ?_
  exact and_congr_right fun _ => and_comm

theorem findSome?_problem?_eq_none_iff {units : List UnitName} :
    units.findSome? (problem? index catalog) = none ↔
      ∀ unit ∈ units, ∀ value, ¬Unreadable index catalog unit value := by
  rw [List.findSome?_eq_none_iff]
  simp only [problem?_eq_none_iff_readable]

theorem exists_findSome?_problem?_iff {units : List UnitName} :
    (∃ problem, units.findSome? (problem? index catalog) = some problem) ↔
      ∃ unit ∈ units, ∃ value, Unreadable index catalog unit value := by
  rw [← Option.ne_none_iff_exists', ne_eq, findSome?_problem?_eq_none_iff]
  push Not
  rfl

end Hints

namespace Engine

variable {σ : Type} {engine : Engine} {host : Host σ} {request : Request} {state : σ}

/-! ## Exclusions that are forbidden -/

/-- **An exclusion is forbidden**: it names no candidate, and the policy is strict, or it is
lenient and the exclusion names a symbol of the build. -/
def Forbids (engine : Engine) (request : Request) (unit : UnitName) : Prop :=
  unit ∈ request.offered ∧ unit ∉ request.candidates ∧
    ((engine.settingsIn request.env).policy = .strict ∨
      (engine.settingsIn request.env).policy = .lenient ∧ engine.oracle unit = true)

theorem mem_invalid_iff {unit : UnitName} :
    unit ∈ engine.invalid request ↔ engine.Forbids request unit := by
  have hpolicy : (engine.settingsIn request.env).policy.forbids engine.oracle unit = true ↔
      ((engine.settingsIn request.env).policy = .strict ∨
        (engine.settingsIn request.env).policy = .lenient ∧ engine.oracle unit = true) := by
    cases (engine.settingsIn request.env).policy with
    | strict => simp [ExclusionPolicy.forbids]
    | lenient => simp [ExclusionPolicy.forbids]
  rw [invalid, Exclusion.invalid, List.mem_filter, Request.mem_exclusions, Bool.and_eq_true,
    hpolicy, Forbids, Bool.not_eq_true', List.contains_eq_mem, decide_eq_false_iff_not,
    Request.mem_names]

theorem invalid_eq_nil_iff_forall :
    engine.invalid request = [] ↔ ∀ unit, ¬engine.Forbids request unit := by
  rw [List.eq_nil_iff_forall_not_mem]
  exact forall_congr' fun unit => not_congr mem_invalid_iff

theorem exists_forbids_iff :
    (∃ unit, engine.Forbids request unit) ↔ engine.invalid request ≠ [] := by
  rw [ne_eq, invalid_eq_nil_iff_forall, not_forall_not]

/-- Forbidden exclusions are listed in the order in which they were first offered. -/
theorem pairwise_invalid : (engine.invalid request).Pairwise fun first second =>
    request.offered.idxOf first < request.offered.idxOf second :=
  (Repetition.pairwise_idxOf_eraseDups request.offered).filter _

/-! ## What a stage finds first -/

theorem mem_survivors_iff {unit : UnitName} :
    unit ∈ engine.survivors request ↔ unit ∈ request.candidates ∧ unit ∉ request.offered ∧
      engine.against? request.env unit = none := by
  rw [mem_survivors, Request.mem_kept, Request.mem_exclusions, and_assoc]

/-- The units to be evaluated stand in the order in which they were first candidates. -/
theorem pairwise_survivors : (engine.survivors request).Pairwise fun first second =>
    request.candidates.idxOf first < request.candidates.idxOf second :=
  ((Repetition.pairwise_idxOf_eraseDups request.candidates).filter _).filter _

theorem fault?_eq_some_iff {problem : Malformed} :
    engine.fault? request = some problem ↔ ∃ earlier later,
      engine.survivors request = earlier ++ problem.unit :: later ∧
        (∀ other ∈ earlier, ¬Decision.AtFault engine.catalog other) ∧
        Decision.FirstFault engine.catalog problem.unit problem := by
  rw [fault?, List.findSome?_eq_some_iff]
  simp only [Decision.fault?_eq_some_iff, Decision.fault?_eq_none_iff_not_atFault]
  constructor
  · rintro ⟨earlier, unit, later, hs, hfirst, hsound⟩
    -- the problem tells of the unit at which it was found
    rw [hfirst.unit_eq]
    exact ⟨earlier, later, hs, hsound, hfirst⟩
  · rintro ⟨earlier, later, hs, hsound, hfirst⟩
    exact ⟨earlier, problem.unit, later, hs, hfirst, hsound⟩

theorem fault?_eq_none_iff_forall : engine.fault? request = none ↔
    ∀ unit ∈ engine.survivors request, ¬Decision.AtFault engine.catalog unit := by
  rw [fault?, List.findSome?_eq_none_iff]
  simp only [Decision.fault?_eq_none_iff_not_atFault]

theorem exists_fault?_iff : (∃ problem, engine.fault? request = some problem) ↔
    ∃ unit ∈ engine.survivors request, Decision.AtFault engine.catalog unit := by
  rw [← Option.ne_none_iff_exists', ne_eq, fault?_eq_none_iff_forall]
  push Not
  rfl

/-! ## The ways in which a pass ends -/

/-- **How a pass ends**: what it gives out and where it leaves the host, in each of the
cases.  A unit at fault ends the evaluation, and the units before it have been decided. -/
inductive Ends (engine : Engine) (host : Host σ) (request : Request) (state : σ) :
    Except Failure Resolution × σ → Prop where
  | switchedOff (off : (engine.settingsIn request.env).enabled = false) :
    Ends engine host request state (.ok .switchedOff, state)
  | forbidden (enabled : (engine.settingsIn request.env).enabled = true)
      (invalid : engine.invalid request ≠ []) :
    Ends engine host request state (.error (.invalidExclusions (engine.invalid request)), state)
  | atFault (enabled : (engine.settingsIn request.env).enabled = true)
      (valid : engine.invalid request = []) {problem : Malformed}
      (found : engine.fault? request = some problem) :
    Ends engine host request state (.error (.malformed problem),
      (engine.decide host request.env state ((engine.survivors request).takeWhile fun unit =>
        (Decision.fault? engine.catalog unit).isNone)).2)
  | unreadable (enabled : (engine.settingsIn request.env).enabled = true)
      (valid : engine.invalid request = []) (sound : engine.fault? request = none)
      {problem : NotInteger}
      (found : (acceptedIn (engine.decisions host request state)).findSome?
        (Hints.problem? engine.index engine.catalog) = some problem) :
    Ends engine host request state (.error (.notInteger problem),
      engine.hostAfter host request state)
  | cyclic (enabled : (engine.settingsIn request.env).enabled = true)
      (valid : engine.invalid request = []) (sound : engine.fault? request = none)
      (readable : (acceptedIn (engine.decisions host request state)).findSome?
        (Hints.problem? engine.index engine.catalog) = none)
      (found : Order.Cyclic engine.index engine.catalog
        (acceptedIn (engine.decisions host request state))) (cycle : Cycle) :
    Ends engine host request state (.error (.cycle cycle), engine.hostAfter host request state)
  | completed {resolution : Resolution} {final : σ}
      (completes : engine.Completes host request state resolution final) :
    Ends engine host request state (.ok resolution, final)

variable (engine host request state)

/-- **Every pass ends in one of these ways.** -/
theorem resolve_ends : engine.Ends host request state (engine.resolve host request state) := by
  by_cases enabled : (engine.settingsIn request.env).enabled = true
  · rw [resolve_eq enabled]
    by_cases valid : engine.invalid request = []
    · rw [if_pos (List.isEmpty_iff.mpr valid)]
      cases hf : engine.fault? request with
      | some problem => exact .atFault enabled valid hf
      | none =>
        rcases Order.arrange_cases engine.index engine.catalog
          (acceptedIn (engine.decisions host request state)) with ⟨problem, hp, ha⟩ |
          ⟨hp, hc, cycle, ha⟩ | ⟨-, -, order, ha, -⟩
        · simp only [ha]
          exact .unreadable enabled valid hf hp
        · simp only [ha]
          exact .cyclic enabled valid hf hp hc cycle
        · simp only [ha]
          exact .completed ⟨enabled, valid, hf, ha, rfl, rfl⟩
    · rw [if_neg fun h => valid (List.isEmpty_iff.mp h)]
      exact .forbidden enabled valid
  · rw [resolve, if_neg enabled]
    exact .switchedOff (Bool.not_eq_true _ ▸ enabled)

/-! ## Which failure it is -/

section Failures

variable {engine host request state}
variable (enabled : (engine.settingsIn request.env).enabled = true)
include enabled

theorem resolve_eq_invalidExclusions_iff {units : List UnitName} :
    (engine.resolve host request state).1 = .error (.invalidExclusions units) ↔
      engine.invalid request ≠ [] ∧ units = engine.invalid request := by
  have h := resolve_ends engine host request state
  generalize engine.resolve host request state = ended at h
  cases h with
  | switchedOff off => exact absurd enabled (off ▸ Bool.false_ne_true)
  | forbidden _ hinvalid => simp [hinvalid, eq_comm]
  | atFault _ valid _ => simp [valid]
  | unreadable _ valid _ _ => simp [valid]
  | cyclic _ valid _ _ _ _ => simp [valid]
  | completed completes => simp [completes.valid]

theorem resolve_eq_malformed_iff {problem : Malformed} :
    (engine.resolve host request state).1 = .error (.malformed problem) ↔
      engine.invalid request = [] ∧ engine.fault? request = some problem := by
  have h := resolve_ends engine host request state
  generalize engine.resolve host request state = ended at h
  cases h with
  | switchedOff off => exact absurd enabled (off ▸ Bool.false_ne_true)
  | forbidden _ hinvalid => simp [hinvalid]
  | atFault _ valid found => simp [valid, found]
  | unreadable _ _ sound _ => simp [sound]
  | cyclic _ _ sound _ _ _ => simp [sound]
  | completed completes => simp [completes.sound]

theorem resolve_eq_notInteger_iff {problem : NotInteger} :
    (engine.resolve host request state).1 = .error (.notInteger problem) ↔
      engine.invalid request = [] ∧ engine.fault? request = none ∧
        (acceptedIn (engine.decisions host request state)).findSome?
          (Hints.problem? engine.index engine.catalog) = some problem := by
  have h := resolve_ends engine host request state
  generalize engine.resolve host request state = ended at h
  cases h with
  | switchedOff off => exact absurd enabled (off ▸ Bool.false_ne_true)
  | forbidden _ hinvalid => simp [hinvalid]
  | atFault _ _ found => simp [found]
  | unreadable _ valid sound found => simp [valid, sound, found]
  | cyclic _ _ _ readable _ _ => simp [readable]
  | completed completes => simp [(Order.of_arrange_eq_ok completes.arranged).1]

theorem exists_resolve_eq_cycle_iff :
    (∃ cycle, (engine.resolve host request state).1 = .error (.cycle cycle)) ↔
      engine.invalid request = [] ∧ engine.fault? request = none ∧
        (acceptedIn (engine.decisions host request state)).findSome?
          (Hints.problem? engine.index engine.catalog) = none ∧
        Order.Cyclic engine.index engine.catalog
          (acceptedIn (engine.decisions host request state)) := by
  have h := resolve_ends engine host request state
  generalize engine.resolve host request state = ended at h
  cases h with
  | switchedOff off => exact absurd enabled (off ▸ Bool.false_ne_true)
  | forbidden _ hinvalid => simp [hinvalid]
  | atFault _ _ found => simp [found]
  | unreadable _ _ _ found => simp [found]
  | cyclic _ valid sound readable found cycle => simp [valid, sound, readable, found]
  | completed completes => simp [(Order.of_arrange_eq_ok completes.arranged).2.1]

theorem exists_resolve_eq_ok_iff :
    (∃ resolution, (engine.resolve host request state).1 = .ok resolution) ↔
      engine.invalid request = [] ∧ engine.fault? request = none ∧
        (acceptedIn (engine.decisions host request state)).findSome?
          (Hints.problem? engine.index engine.catalog) = none ∧
        ¬Order.Cyclic engine.index engine.catalog
          (acceptedIn (engine.decisions host request state)) := by
  have h := resolve_ends engine host request state
  generalize engine.resolve host request state = ended at h
  cases h with
  | switchedOff off => exact absurd enabled (off ▸ Bool.false_ne_true)
  | forbidden _ hinvalid => simp [hinvalid]
  | atFault _ _ found => simp [found]
  | unreadable _ _ _ found => simp [found]
  | cyclic _ _ _ _ found _ => simp [found]
  | completed completes =>
    have hordered := Order.of_arrange_eq_ok completes.arranged
    simp [completes.valid, completes.sound, hordered.1, hordered.2.1]

end Failures

/-- **A pass fails in four ways, one looked for after the other.**  First, if an exclusion is
forbidden; the failure lists all such exclusions, in the order in which they were first
offered.  Next, if a unit to be evaluated is at fault; the failure names the first such unit
and its first rule at fault.  Next, if the precedence of an accepted unit cannot be read; the
failure names the first such unit and the value.  Last, if the accepted units go round in a
circle.  In all other cases the pass succeeds.  A unit that is excluded or sorted out is not
evaluated, and a unit that is not evaluated is not accepted. -/
theorem resolve_fails_iff {σ : Type} (engine : Engine) (host : Host σ) (request : Request)
    (state : σ) (enabled : (engine.settingsIn request.env).enabled = true) :
    ((∃ units, (engine.resolve host request state).1 = .error (.invalidExclusions units)) ↔
      ∃ unit, engine.Forbids request unit) ∧
    (∀ units, (engine.resolve host request state).1 = .error (.invalidExclusions units) →
      (∀ unit, unit ∈ units ↔ engine.Forbids request unit) ∧
      units.Pairwise fun first second =>
        request.offered.idxOf first < request.offered.idxOf second) ∧
    ((∃ problem, (engine.resolve host request state).1 = .error (.malformed problem)) ↔
      (∀ unit, ¬engine.Forbids request unit) ∧
      ∃ unit ∈ engine.survivors request, Decision.AtFault engine.catalog unit) ∧
    (∀ problem, (engine.resolve host request state).1 = .error (.malformed problem) →
      ∃ earlier later, engine.survivors request = earlier ++ problem.unit :: later ∧
        (∀ other ∈ earlier, ¬Decision.AtFault engine.catalog other) ∧
        Decision.FirstFault engine.catalog problem.unit problem) ∧
    ((∃ problem, (engine.resolve host request state).1 = .error (.notInteger problem)) ↔
      (∀ unit, ¬engine.Forbids request unit) ∧
      (∀ unit ∈ engine.survivors request, ¬Decision.AtFault engine.catalog unit) ∧
      ∃ unit ∈ acceptedIn (engine.decisions host request state), ∃ value,
        Hints.Unreadable engine.index engine.catalog unit value) ∧
    (∀ problem, (engine.resolve host request state).1 = .error (.notInteger problem) →
      ∃ earlier unit later,
        acceptedIn (engine.decisions host request state) = earlier ++ unit :: later ∧
        (∀ other ∈ earlier, ∀ value, ¬Hints.Unreadable engine.index engine.catalog other value) ∧
        ∃ value, Hints.Unreadable engine.index engine.catalog unit value ∧
          problem = ⟨Metadata.fullKey unit Metadata.orderKey, value⟩) ∧
    ((∃ cycle, (engine.resolve host request state).1 = .error (.cycle cycle)) ↔
      (∀ unit, ¬engine.Forbids request unit) ∧
      (∀ unit ∈ engine.survivors request, ¬Decision.AtFault engine.catalog unit) ∧
      (∀ unit ∈ acceptedIn (engine.decisions host request state), ∀ value,
        ¬Hints.Unreadable engine.index engine.catalog unit value) ∧
      Order.Cyclic engine.index engine.catalog
        (acceptedIn (engine.decisions host request state))) ∧
    ((∃ resolution, (engine.resolve host request state).1 = .ok resolution) ↔
      (∀ unit, ¬engine.Forbids request unit) ∧
      (∀ unit ∈ engine.survivors request, ¬Decision.AtFault engine.catalog unit) ∧
      (∀ unit ∈ acceptedIn (engine.decisions host request state), ∀ value,
        ¬Hints.Unreadable engine.index engine.catalog unit value) ∧
      ¬Order.Cyclic engine.index engine.catalog
        (acceptedIn (engine.decisions host request state))) ∧
    (∀ unit, unit ∈ engine.survivors request ↔ unit ∈ request.candidates ∧
      unit ∉ request.offered ∧ engine.against? request.env unit = none) ∧
    ((engine.survivors request).Pairwise fun first second =>
      request.candidates.idxOf first < request.candidates.idxOf second) ∧
    (acceptedIn (engine.decisions host request state)).Sublist (engine.survivors request) := by
  have hvalid : engine.invalid request = [] ↔ ∀ unit, ¬engine.Forbids request unit :=
    invalid_eq_nil_iff_forall
  have hsound : engine.fault? request = none ↔
      ∀ unit ∈ engine.survivors request, ¬Decision.AtFault engine.catalog unit :=
    fault?_eq_none_iff_forall
  have hreadable : (acceptedIn (engine.decisions host request state)).findSome?
      (Hints.problem? engine.index engine.catalog) = none ↔
        ∀ unit ∈ acceptedIn (engine.decisions host request state), ∀ value,
          ¬Hints.Unreadable engine.index engine.catalog unit value :=
    Hints.findSome?_problem?_eq_none_iff
  refine ⟨?_, ?_, ?_, ?_, ?_, ?_, ?_, ?_, fun _ => mem_survivors_iff, pairwise_survivors, ?_⟩
  · rw [exists_forbids_iff]
    simp only [resolve_eq_invalidExclusions_iff enabled, exists_and_left, exists_eq, and_true]
  · intro units h
    obtain ⟨-, rfl⟩ := (resolve_eq_invalidExclusions_iff enabled).mp h
    exact ⟨fun unit => mem_invalid_iff, pairwise_invalid⟩
  · rw [← hvalid, ← exists_fault?_iff]
    simp only [resolve_eq_malformed_iff enabled, exists_and_left]
  · intro problem h
    exact fault?_eq_some_iff.mp ((resolve_eq_malformed_iff enabled).mp h).2
  · rw [← hvalid, ← hsound, ← Hints.exists_findSome?_problem?_iff]
    simp only [resolve_eq_notInteger_iff enabled, exists_and_left]
  · intro problem h
    exact Hints.findSome?_problem?_eq_some_iff.mp ((resolve_eq_notInteger_iff enabled).mp h).2.2
  · rw [exists_resolve_eq_cycle_iff enabled, hvalid, hsound, hreadable]
  · rw [exists_resolve_eq_ok_iff enabled, hvalid, hsound, hreadable]
  · rw [← map_fst_decisions engine host request state]
    exact acceptedIn_sublist _

/-- An engine with four units at fault. -/
def brokenEngine : Engine where
  oracle _ := false
  index := .ofPairs [("sorted.ConditionalOnClass", "Redis")]
  catalog := .ofDefinitions
    [{ name := "gone", rules := [.requiresSymbols []] },
     { name := "sorted", rules := [.requiresSymbols []] },
     { name := "broken", rules := [.requiresWeb .any, .forbidsSymbols [" "]] },
     { name := "worse", rules := [.requiresSymbols []] }]

/-- A request that excludes the first of them; the second is sorted out. -/
def brokenRequest : Request where
  candidates := ["gone", "sorted", "plain", "broken", "worse"]
  exclude := ["gone"]

theorem survivors_brokenRequest :
    brokenEngine.survivors brokenRequest = ["plain", "broken", "worse"] := by
  decide

/-- The pass over them fails, and the unit that it names is the third. -/
theorem resolve_fails_iff_broken :
    (brokenEngine.settingsIn brokenRequest.env).enabled = true ∧
    ∃ problem, (brokenEngine.resolve .registering brokenRequest {}).1 =
        .error (.malformed problem) ∧
      problem.unit = "broken" ∧
      Decision.FirstFault brokenEngine.catalog "broken" problem := by
  have enabled : (brokenEngine.settingsIn brokenRequest.env).enabled = true := by decide
  have hplain : brokenEngine.catalog["plain"]? = none := by decide
  have hrule : (Rule.forbidsSymbols [" "]).fault? = some .noSymbol := by decide
  have hbroken : Decision.AtFault brokenEngine.catalog "broken" :=
    ⟨{ name := "broken", rules := [.requiresWeb .any, .forbidsSymbols [" "]] }, by decide,
      .forbidsSymbols [" "], by decide, hrule ▸ Option.some_ne_none _⟩
  have hvalid : ∀ unit, ¬brokenEngine.Forbids brokenRequest unit := by
    rintro unit ⟨hoffered, hcandidate, -⟩
    have hgone : brokenRequest.offered = ["gone"] := by decide
    rw [hgone, List.mem_singleton] at hoffered
    exact hcandidate (hoffered ▸ List.mem_cons_self)
  obtain ⟨-, -, hfault, hfirst, -⟩ :=
    resolve_fails_iff brokenEngine .registering brokenRequest {} enabled
  rw [survivors_brokenRequest] at hfault hfirst
  obtain ⟨problem, hp⟩ := hfault.mpr ⟨hvalid, "broken", by decide, hbroken⟩
  obtain ⟨earlier, later, hs, hsound, hproblem⟩ := hfirst problem hp
  refine ⟨enabled, problem, hp, ?_⟩
  rcases earlier with _ | ⟨first, _ | ⟨second, rest⟩⟩
  · injection hs with hunit
    obtain ⟨definition, -, -, -, hd, -⟩ := hproblem
    rw [← hunit, hplain] at hd
    cases hd
  · injection hs with _ hs
    injection hs with hunit
    exact ⟨hunit.symm, hunit ▸ hproblem⟩
  · injection hs with _ hs
    injection hs with hsecond
    refine absurd hbroken (hsound "broken" ?_)
    rw [hsecond]
    exact List.mem_cons_of_mem _ List.mem_cons_self

end Engine
end Activation
