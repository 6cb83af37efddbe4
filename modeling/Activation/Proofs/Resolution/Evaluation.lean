import Activation.Resolution.Evaluation
import Mathlib.Data.List.TakeWhile

/-!
# What an evaluation decides

An evaluation goes through the units in order, and the host is told of every unit
that is accepted.  A rule at fault ends it, but whether a rule is at fault does not
depend on the host.  So an evaluation is described by two things that are known
apart: the first unit with a rule at fault (`Decision.fault?`), and the decisions
that are made as long as there is none (`Decision.run`).

* `Decision.forEach_eq`: the evaluation in terms of these two.
* `Decision.run_append`: the decisions about further units are made in the state in
  which the host was left, and nothing else is carried over.
* `Decision.run_silent`: with a host that takes no notice every decision is made by
  itself.
-/

namespace Activation
namespace Decision

/-- The first rule of a unit that is at fault. -/
def fault? (catalog : Catalog) (unit : UnitName) : Option Malformed :=
  catalog[unit]?.bind fun definition => definition.rules.findSome? (Rule.malformed? unit)

/-- What is decided about a unit with a given definition that is not at fault. -/
def given (context : Context) : Option Definition → Decision
  | none => unconditional
  | some definition =>
    if definition.isUnconditional then unconditional
    else judged (Verdict.ofRules context definition.rules)

/-- **A single decision** fails with the first rule at fault. -/
theorem ofDefinition_eq (catalog : Catalog) (context : Context) (unit : UnitName) :
    ofDefinition context unit catalog[unit]? =
      match fault? catalog unit with
      | some problem => .error problem
      | none => .ok (given context catalog[unit]?) := by
  rw [fault?]
  cases catalog[unit]? with
  | none => rfl
  | some definition =>
    rw [ofDefinition, given, Option.bind_some]
    by_cases hu : definition.isUnconditional = true
    · have hnil : definition.rules = [] := List.isEmpty_iff.mp hu
      rw [if_pos hu, if_pos hu, hnil]
      rfl
    · rw [if_neg hu, if_neg hu, Verdict.ofUnit]
      cases definition.rules.findSome? (Rule.malformed? unit) with
      | some problem => rfl
      | none => rfl

variable {σ : Type} (host : Host σ) (oracle : Oracle) (catalog : Catalog) (env : Environment)

/-- The decisions about units that are not at fault, in order, and the state of the
host afterwards. -/
def run (state : σ) : List UnitName → List (UnitName × Decision) × σ
  | [] => ([], state)
  | unit :: units =>
    let decision := given (host.context oracle env state) catalog[unit]?
    let rest := run (host.afterDecision catalog state unit decision) units
    ((unit, decision) :: rest.1, rest.2)

/-- **An evaluation**, up to the first unit at fault if there is one. -/
theorem forEach_eq (state : σ) (units : List UnitName) :
    forEach host oracle catalog env state units =
      (match units.findSome? (fault? catalog) with
        | some problem => .error problem
        | none => .ok (run host oracle catalog env state units).1,
      (run host oracle catalog env state
        (units.takeWhile fun unit => (fault? catalog unit).isNone)).2) := by
  induction units generalizing state with
  | nil => rfl
  | cons unit units ih =>
    rw [forEach, ofDefinition_eq, List.findSome?_cons, List.takeWhile_cons]
    cases hf : fault? catalog unit with
    | some problem => rfl
    | none =>
      simp only [ih]
      cases units.findSome? (fault? catalog) with
      | some problem => rfl
      | none => rfl

/-- An evaluation of units of which one is at fault ends there. -/
theorem forEach_of_fault {units : List UnitName} {problem : Malformed}
    (h : units.findSome? (fault? catalog) = some problem) (state : σ) :
    forEach host oracle catalog env state units =
      (.error problem, (run host oracle catalog env state
        (units.takeWhile fun unit => (fault? catalog unit).isNone)).2) := by
  rw [forEach_eq, h]

/-- An evaluation of units that are not at fault decides them all. -/
theorem forEach_of_no_fault {units : List UnitName}
    (h : units.findSome? (fault? catalog) = none) (state : σ) :
    forEach host oracle catalog env state units =
      (.ok (run host oracle catalog env state units).1,
        (run host oracle catalog env state units).2) := by
  have hall : (units.takeWhile fun unit => (fault? catalog unit).isNone) = units := by
    rw [List.takeWhile_eq_self_iff]
    intro unit hu
    rw [Option.isNone_iff_eq_none]
    exact List.findSome?_eq_none_iff.mp h unit hu
  rw [forEach_eq, h, hall]

/-- Decisions are made about the units in their order. -/
theorem map_fst_run (state : σ) (units : List UnitName) :
    (run host oracle catalog env state units).1.map Prod.fst = units := by
  induction units generalizing state with
  | nil => rfl
  | cons unit units ih => rw [run, List.map_cons, ih]

/-- **Further units** are decided in the state in which the host was left. -/
theorem run_append (state : σ) (units further : List UnitName) :
    run host oracle catalog env state (units ++ further) =
      ((run host oracle catalog env state units).1 ++
        (run host oracle catalog env (run host oracle catalog env state units).2 further).1,
      (run host oracle catalog env (run host oracle catalog env state units).2 further).2) := by
  induction units generalizing state with
  | nil => rfl
  | cons unit units ih =>
    rw [List.cons_append, run, ih]
    rfl

/-- **With a host that takes no notice** every unit is decided by itself. -/
theorem run_silent (registry : Registry) (units : List UnitName) :
    run Host.silent oracle catalog env registry units =
      (units.map fun unit => (unit, given ⟨oracle, registry, env⟩ catalog[unit]?), registry) := by
  induction units with
  | nil => rfl
  | cons unit units ih =>
    have hstate (decision : Decision) :
        Host.silent.afterDecision catalog registry unit decision = registry := by
      rw [Host.afterDecision]
      split
      · rfl
      · rfl
    rw [run, hstate, ih]
    rfl

/-- A decision speaks against a unit exactly if the unit is not accepted. -/
theorem exists_against?_iff {decision : Decision} :
    (∃ outcomes, decision.against? = some outcomes) ↔ decision.isAccepted = false := by
  cases decision with
  | unconditional => simp [against?, isAccepted]
  | judged verdict =>
    rw [against?, isAccepted]
    cases verdict.matched with
    | true => simp
    | false => simp

theorem against?_eq_none_iff {decision : Decision} :
    decision.against? = none ↔ decision.isAccepted = true := by
  rw [← Bool.not_eq_false, ← exists_against?_iff, Option.eq_none_iff_forall_ne_some, not_exists]

end Decision
end Activation
