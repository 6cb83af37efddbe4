import Activation.Order.Hints
import Mathlib.Data.List.Basic

/-!
# Reading the hints of all units

The hints of units are read one after the other, and the first precedence that
cannot be read stops it.  The units before and after are not subject to that, so
reading fails or succeeds as a whole: `readAll_eq` says how, with

* `Hints.problem?`: what is wrong with the precedence of a unit, if anything, and
* `Hints.ofUnit`: the hints of a unit, with precedence 0 in place of one that cannot
  be read.
-/

namespace Activation
namespace Hints

variable (index : Metadata) (catalog : Catalog)

/-- What is wrong with the precedence of a unit. -/
def problem? (unit : UnitName) : Option NotInteger :=
  match readOrder index catalog unit with
  | .error problem => some problem
  | .ok _ => none

/-- The hints of a unit; its precedence counts as 0 if it cannot be read. -/
def ofUnit (unit : UnitName) : Hints where
  order := (readOrder index catalog unit).toOption.getD 0
  before := readUnits index catalog unit Definition.before Metadata.beforeKey
  after := readUnits index catalog unit Definition.after Metadata.afterKey

variable {index catalog}

theorem problem?_eq_none_iff {unit : UnitName} :
    problem? index catalog unit = none ↔ ∃ order, readOrder index catalog unit = .ok order := by
  rw [problem?]
  cases readOrder index catalog unit with
  | error problem => simp
  | ok order => simp

theorem readOrder_of_problem?_eq_none {unit : UnitName} (h : problem? index catalog unit = none) :
    readOrder index catalog unit = .ok (ofUnit index catalog unit).order := by
  obtain ⟨order, ho⟩ := problem?_eq_none_iff.mp h
  rw [ofUnit, ho]
  rfl

/-- **Reading the hints of one unit.** -/
theorem read_eq (unit : UnitName) :
    read index catalog unit =
      match problem? index catalog unit with
      | some problem => .error problem
      | none => .ok (ofUnit index catalog unit) := by
  rw [read, problem?, ofUnit]
  cases readOrder index catalog unit with
  | error problem => rfl
  | ok order => rfl

/-- **Reading the hints of all units** fails with the first precedence that cannot be
read, and otherwise gives every unit with its own hints. -/
theorem readAll_eq (units : List UnitName) :
    readAll index catalog units =
      match units.findSome? (problem? index catalog) with
      | some problem => .error problem
      | none => .ok (units.map fun unit => (unit, ofUnit index catalog unit)) := by
  induction units with
  | nil => rfl
  | cons unit units ih =>
    rw [readAll, read_eq, ih, List.findSome?_cons]
    cases problem? index catalog unit with
    | some problem => rfl
    | none =>
      cases units.findSome? (problem? index catalog) with
      | some problem => rfl
      | none => rfl

end Hints
end Activation
