import Activation.Order.Prerequisites

/-!
# The walk over the prerequisites

Units are arranged by a depth-first walk.  A unit is entered, then its
prerequisites are walked in their order, and then the unit is emitted.  A
prerequisite that is emitted already is passed over; one that has been entered
and not yet emitted shows a cycle.

The walk keeps an explicit stack.  A frame holds a unit that has been entered
together with the prerequisites that are still waiting, so the length of a chain
of prerequisites is bounded by memory alone.

The walk ends because every step either enters a unit of the table that was
neither entered nor emitted before, or makes the stack lighter.
-/

namespace Activation

/-- The prerequisites of a unit; none if it is not in the table. -/
def Prerequisites.of (table : Prerequisites) (unit : UnitName) : List UnitName :=
  (table[unit]?).getD []

/-- A unit whose prerequisites are being walked.

How far the walk has come is said by the prerequisites that are left, which are a suffix of
the list of the unit in the table.  This is the same as an index into that list, that of the
first one left: looking at the next prerequisite takes one off the front, where the index
would go up by one, and the frame is done when none is left, where the index would have
reached the end. -/
structure Frame where
  /-- The unit, which has been entered. -/
  unit : UnitName
  /-- The prerequisites that are still waiting. -/
  waiting : List UnitName
  deriving DecidableEq

/-- Two units that show a cycle: the first waits for the second, and the second
waits, perhaps through others, for the first. -/
structure Clash where
  /-- The unit that was walked. -/
  first : UnitName
  /-- The prerequisite of it that had been entered already. -/
  second : UnitName
  deriving DecidableEq, Repr

/-- How far a walk has come. -/
structure Walk where
  /-- The emitted units, the latest first. -/
  emitted : List UnitName := []
  /-- The emitted units as a set. -/
  done : Std.ExtTreeSet UnitName := ∅
  /-- The units that have been entered and not yet emitted. -/
  processing : Std.ExtTreeSet UnitName := ∅

namespace Walk

/-- Enters a unit. -/
def enter (walk : Walk) (unit : UnitName) : Walk :=
  { walk with processing := walk.processing.insert unit }

/-- Emits a unit whose prerequisites have all been emitted. -/
def emit (walk : Walk) (unit : UnitName) : Walk where
  emitted := unit :: walk.emitted
  done := walk.done.insert unit
  processing := walk.processing.erase unit

/-- Whether a unit has been neither entered nor emitted. -/
def isFresh (walk : Walk) (unit : UnitName) : Bool :=
  !walk.done.contains unit && !walk.processing.contains unit

/-- The number of units of a table that have been neither entered nor emitted. -/
def freshCount (table : Prerequisites) (walk : Walk) : Nat :=
  table.keys.countP walk.isFresh

/-- The weight of a stack: every frame counts, and a waiting unit counts twice,
since it may become a frame. -/
def weight (stack : List Frame) : Nat :=
  stack.foldr (fun frame total => 2 * frame.waiting.length + 1 + total) 0

/-- What holds more often, and at one place strictly so, is counted more often. -/
theorem countP_lt_of_imp {α : Type} {p q : α → Bool} {xs : List α} {a : α}
    (h : ∀ x, p x = true → q x = true) (ha : a ∈ xs) (hp : p a = false) (hq : q a = true) :
    xs.countP p < xs.countP q := by
  induction xs with
  | nil => exact absurd ha List.not_mem_nil
  | cons x xs ih =>
    have hle : xs.countP p ≤ xs.countP q := List.countP_mono_left fun y _ => h y
    simp only [List.countP_cons]
    rcases List.mem_cons.1 ha with rfl | ha
    · simp only [hp, hq]
      simpa using Nat.lt_succ_of_le hle
    · have hlt := ih ha
      by_cases hx : p x = true
      · simp [hx, h x hx, hlt]
      · by_cases hy : q x = true <;> simp [hx, hy] <;> omega

/-- Emitting a unit makes no unit fresh. -/
theorem freshCount_emit_le (table : Prerequisites) (walk : Walk) (unit : UnitName) :
    freshCount table (walk.emit unit) ≤ freshCount table walk := by
  refine List.countP_mono_left fun other _ h => ?_
  simp only [isFresh, emit, Bool.and_eq_true, Bool.not_eq_true'] at h ⊢
  grind

/-- Entering a unit makes no unit fresh. -/
theorem freshCount_enter_le (table : Prerequisites) (walk : Walk) (unit : UnitName) :
    freshCount table (walk.enter unit) ≤ freshCount table walk := by
  refine List.countP_mono_left fun other _ h => ?_
  simp only [isFresh, enter, Bool.and_eq_true, Bool.not_eq_true'] at h ⊢
  grind

/-- Entering a fresh unit of the table uses it up. -/
theorem freshCount_enter_lt {table : Prerequisites} {walk : Walk} {unit : UnitName}
    (hm : unit ∈ table) (h : walk.isFresh unit = true) :
    freshCount table (walk.enter unit) < freshCount table walk := by
  refine countP_lt_of_imp (fun other h => ?_) (Std.ExtTreeMap.mem_keys.2 hm) ?_ h
  · simp only [isFresh, enter, Bool.and_eq_true, Bool.not_eq_true'] at h ⊢
    grind
  · simp [isFresh, enter]

/-- Walks until the stack is empty or a cycle is found. -/
def run (table : Prerequisites) (walk : Walk) (stack : List Frame) : Except Clash Walk :=
  match stack with
  | [] => .ok walk
  | ⟨unit, []⟩ :: stack => run table (walk.emit unit) stack
  | ⟨unit, next :: waiting⟩ :: stack =>
    if walk.processing.contains next then .error ⟨unit, next⟩
    else if walk.done.contains next then run table walk (⟨unit, waiting⟩ :: stack)
    else run table (walk.enter next) (⟨next, table.of next⟩ :: ⟨unit, waiting⟩ :: stack)
termination_by (walk.freshCount table, weight stack)
decreasing_by
  · refine Prod.Lex.right' _ (freshCount_emit_le ..) ?_
    simp [weight]
  · refine Prod.Lex.right _ ?_
    simp [weight]
  · rename_i hp hd
    by_cases hm : next ∈ table
    · refine Prod.Lex.left _ _ (freshCount_enter_lt hm ?_)
      simp only [isFresh, Bool.and_eq_true, Bool.not_eq_true', Bool.eq_false_iff]
      exact ⟨hd, hp⟩
    · refine Prod.Lex.right' _ (freshCount_enter_le ..) ?_
      have hn : table[next]? = none := Std.ExtTreeMap.getElem?_eq_none hm
      simp [weight, Prerequisites.of, hn]
      omega

/-- Walks from one unit. -/
def visit (table : Prerequisites) (walk : Walk) (unit : UnitName) : Except Clash Walk :=
  run table (walk.enter unit) [⟨unit, table.of unit⟩]

/-- Walks from several units, those that are emitted already apart. -/
def visitAll (table : Prerequisites) (walk : Walk) : List UnitName → Except Clash Walk
  | [] => .ok walk
  | unit :: units =>
    if walk.done.contains unit then visitAll table walk units
    else
      match visit table walk unit with
      | .error clash => .error clash
      | .ok walk => visitAll table walk units

/-- The units in the order in which a walk from all of them emits them. -/
def arrange (table : Prerequisites) (units : List UnitName) : Except Clash (List UnitName) :=
  (visitAll table {} units).map fun walk => walk.emitted.reverse

end Walk
end Activation
