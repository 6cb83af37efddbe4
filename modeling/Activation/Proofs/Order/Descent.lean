import Activation.Proofs.Order.Walk

/-!
# The walk is a recursive descent

A depth-first walk is most easily said as a recursion: a unit is entered, its prerequisites
are descended into in their order, and then the unit is emitted; a prerequisite that has been
emitted is passed over, and one that has been entered and not yet emitted is a clash.  That is
`descend`, and `descendFrom` is its middle part.  The walk itself does not recurse but keeps a
stack, and what the stack holds are the parts of the recursion that are still to be done
(`unwind`).

* `run_eq_unwind`, `visit_eq_descend`: the walk comes to what the recursion comes to.
* `turn`, `run_eq_turn`: the walk as a loop, one turn after the other.
* `effort_lt`: every turn that does not end the loop lowers `effort`, a number that grows with
  the size of the table only.  So the loop ends, wherever it starts
  (`exists_turns_eq_ends`).
* `Arises.invariant`: the invariant of the walk holds at every turn.
* `visit_descends`: all of this for the states that a walk from several units comes to.
-/

namespace Activation
namespace Walk

variable {table : Prerequisites} {walk : Walk} {stack : List Frame}

/-! ## The recursion -/

/-- The recursion from a unit that has been entered, with the prerequisites that are still
waiting.  The answer comes with the reason why the recursion ends: units that are not fresh do
not become fresh. -/
def descent (table : Prerequisites) (walk : Walk) (unit : UnitName) (waiting : List UnitName) :
    { answer : Except Clash Walk //
      ∀ last, answer = .ok last → freshCount table last ≤ freshCount table walk } :=
  match waiting with
  | [] => ⟨.ok (walk.emit unit), by
      rintro last ⟨⟩
      exact freshCount_emit_le table walk unit⟩
  | next :: waiting =>
    if walk.processing.contains next then ⟨.error ⟨unit, next⟩, nofun⟩
    else if walk.done.contains next then descent table walk unit waiting
    else
      match descent table (walk.enter next) next (table.of next) with
      | ⟨.error clash, _⟩ => ⟨.error clash, nofun⟩
      | ⟨.ok middle, hmiddle⟩ =>
        have hle : freshCount table middle ≤ freshCount table walk :=
          Nat.le_trans (hmiddle middle rfl) (freshCount_enter_le table walk next)
        let rest := descent table middle unit waiting
        ⟨rest.1, fun last hlast => Nat.le_trans (rest.2 last hlast) hle⟩
termination_by (walk.freshCount table, waiting.length)
decreasing_by
  · exact Prod.Lex.right _ (by simp)
  · rename_i hp hd
    by_cases hm : next ∈ table
    · refine Prod.Lex.left _ _ (freshCount_enter_lt hm ?_)
      simp only [isFresh, Bool.and_eq_true, Bool.not_eq_true', Bool.eq_false_iff]
      exact ⟨hd, hp⟩
    · refine Prod.Lex.right' _ (freshCount_enter_le ..) ?_
      have hn : table[next]? = none := Std.ExtTreeMap.getElem?_eq_none hm
      simp [Prerequisites.of, hn]
  · exact Prod.Lex.right' _ hle (by simp)

/-- **The recursion behind a unit** that has been entered: the prerequisites that are waiting
are descended into in their order, and then the unit is emitted. -/
def descendFrom (table : Prerequisites) (walk : Walk) (unit : UnitName)
    (waiting : List UnitName) : Except Clash Walk :=
  (descent table walk unit waiting).1

/-- **The recursion from a unit**: it is entered, and what it needs is descended into. -/
def descend (table : Prerequisites) (walk : Walk) (unit : UnitName) : Except Clash Walk :=
  descendFrom table (walk.enter unit) unit (table.of unit)

theorem descendFrom_nil (unit : UnitName) :
    descendFrom table walk unit [] = .ok (walk.emit unit) := by
  rw [descendFrom, descent]

theorem descendFrom_cons (unit next : UnitName) (waiting : List UnitName) :
    descendFrom table walk unit (next :: waiting) =
      if walk.processing.contains next then .error ⟨unit, next⟩
      else if walk.done.contains next then descendFrom table walk unit waiting
      else (descend table walk next).bind fun middle => descendFrom table middle unit waiting := by
  unfold descend descendFrom
  rw [descent]
  split
  · rfl
  · split
    · rfl
    · cases hmiddle : descent table (walk.enter next) next (table.of next) with
      | mk answer hanswer =>
        cases answer with
        | error clash => rfl
        | ok middle => rfl

/-- What the frames of a stack still have to do, one after the other. -/
def unwind (table : Prerequisites) (walk : Walk) : List Frame → Except Clash Walk
  | [] => .ok walk
  | frame :: stack =>
    (descendFrom table walk frame.unit frame.waiting).bind fun middle => unwind table middle stack

/-- **The stack holds what is left of the recursion.** -/
theorem run_eq_unwind (table : Prerequisites) (walk : Walk) (stack : List Frame) :
    run table walk stack = unwind table walk stack := by
  induction walk, stack using run.induct table with
  | case1 walk => rw [run, unwind]
  | case2 walk unit stack ih =>
    rw [run, ih, unwind, descendFrom_nil]
    rfl
  | case3 walk unit next waiting stack hp =>
    rw [run, if_pos hp, unwind, descendFrom_cons, if_pos hp]
    rfl
  | case4 walk unit next waiting stack hp hd ih =>
    rw [run, if_neg hp, if_pos hd, ih, unwind, unwind, descendFrom_cons, if_neg hp, if_pos hd]
  | case5 walk unit next waiting stack hp hd ih =>
    -- the frame of the prerequisite stands above that of the unit, which waits for it
    have habove : unwind table (walk.enter next)
        (⟨next, table.of next⟩ :: ⟨unit, waiting⟩ :: stack) =
          (descend table walk next).bind fun middle =>
            unwind table middle (⟨unit, waiting⟩ :: stack) :=
      rfl
    have hbelow : unwind table walk (⟨unit, next :: waiting⟩ :: stack) =
        (descendFrom table walk unit (next :: waiting)).bind fun last => unwind table last stack :=
      rfl
    rw [run, if_neg hp, if_neg hd, ih, habove, hbelow, descendFrom_cons, if_neg hp, if_neg hd]
    cases descend table walk next with
    | error clash => rfl
    | ok middle => rfl

/-- **The walk from a unit is the recursion from it.** -/
theorem visit_eq_descend (table : Prerequisites) (walk : Walk) (unit : UnitName) :
    visit table walk unit = descend table walk unit := by
  rw [visit, run_eq_unwind, unwind, descend]
  cases descendFrom table (walk.enter unit) unit (table.of unit) with
  | error clash => rfl
  | ok last => rfl

/-! ## The loop -/

/-- What one turn of the loop comes to. -/
inductive Turn where
  /-- The loop ends. -/
  | ends (answer : Except Clash Walk)
  /-- The loop goes on. -/
  | goesOn (walk : Walk) (stack : List Frame)

/-- **One turn of the loop** deals with the frame on top of the stack. -/
def turn (table : Prerequisites) (walk : Walk) : List Frame → Turn
  | [] => .ends (.ok walk)
  | ⟨unit, []⟩ :: stack => .goesOn (walk.emit unit) stack
  | ⟨unit, next :: waiting⟩ :: stack =>
    if walk.processing.contains next then .ends (.error ⟨unit, next⟩)
    else if walk.done.contains next then .goesOn walk (⟨unit, waiting⟩ :: stack)
    else .goesOn (walk.enter next) (⟨next, table.of next⟩ :: ⟨unit, waiting⟩ :: stack)

/-- What a number of turns come to, or all of them if there are fewer. -/
def turns (table : Prerequisites) : Nat → Walk → List Frame → Turn
  | 0, walk, stack => .goesOn walk stack
  | n + 1, walk, stack =>
    match turn table walk stack with
    | .ends answer => .ends answer
    | .goesOn walk stack => turns table n walk stack

/-- **The walk is the loop.** -/
theorem run_eq_turn (table : Prerequisites) (walk : Walk) (stack : List Frame) :
    run table walk stack =
      match turn table walk stack with
      | .ends answer => answer
      | .goesOn walk stack => run table walk stack := by
  cases stack with
  | nil => rw [run, turn]
  | cons frame stack =>
    obtain ⟨unit, waiting⟩ := frame
    cases waiting with
    | nil => rw [run, turn]
    | cons next waiting =>
      rw [run, turn]
      split
      · rfl
      · split
        · rfl
        · rfl

/-- **A turn that does not end the loop** emits the unit of the top frame, passes over one of its
prerequisites, or enters one. -/
theorem turn_cases {next : Walk} {rest : List Frame}
    (h : turn table walk stack = .goesOn next rest) :
    (∃ unit, stack = ⟨unit, []⟩ :: rest ∧ next = walk.emit unit) ∨
    (∃ unit other waiting below, stack = ⟨unit, other :: waiting⟩ :: below ∧
      other ∈ walk.done ∧ next = walk ∧ rest = ⟨unit, waiting⟩ :: below) ∨
    ∃ unit other waiting below, stack = ⟨unit, other :: waiting⟩ :: below ∧
      other ∉ walk.processing ∧ other ∉ walk.done ∧ next = walk.enter other ∧
      rest = ⟨other, table.of other⟩ :: ⟨unit, waiting⟩ :: below := by
  cases stack with
  | nil => cases h
  | cons frame below =>
    obtain ⟨unit, waiting⟩ := frame
    cases waiting with
    | nil =>
      injection h with hnext hrest
      exact .inl ⟨unit, by rw [hrest], hnext.symm⟩
    | cons other waiting =>
      rw [turn] at h
      split at h
      · cases h
      · next hp =>
        split at h
        · next hd =>
          injection h with hnext hrest
          exact .inr (.inl ⟨unit, other, waiting, below, rfl,
            Std.ExtTreeSet.mem_iff_contains.mpr hd, hnext.symm, hrest.symm⟩)
        · next hd =>
          injection h with hnext hrest
          exact .inr (.inr ⟨unit, other, waiting, below, rfl,
            fun hm => hp (Std.ExtTreeSet.mem_iff_contains.mp hm),
            fun hm => hd (Std.ExtTreeSet.mem_iff_contains.mp hm), hnext.symm, hrest.symm⟩)

/-! ## How long the loop goes on -/

/-- What the units of a list that have a property cost together: two turns for each of their
prerequisites. -/
def cost (table : Prerequisites) (p : UnitName → Bool) (units : List UnitName) : Nat :=
  units.foldr (fun unit total => (if p unit then 2 * (table.of unit).length else 0) + total) 0

/-- **What is left to do** at most: what the fresh units cost, and the weight of the stack. -/
def effort (table : Prerequisites) (walk : Walk) (stack : List Frame) : Nat :=
  cost table walk.isFresh table.keys + weight stack

theorem cost_cons (p : UnitName → Bool) (unit : UnitName) (units : List UnitName) :
    cost table p (unit :: units) =
      (if p unit then 2 * (table.of unit).length else 0) + cost table p units := rfl

/-- Fewer units cost less. -/
theorem cost_le {p q : UnitName → Bool} (h : ∀ unit, p unit = true → q unit = true)
    (units : List UnitName) : cost table p units ≤ cost table q units := by
  induction units with
  | nil => exact Nat.le_refl _
  | cons unit units ih =>
    rw [cost_cons, cost_cons]
    by_cases hp : p unit = true
    · simp only [hp, h unit hp, if_true]
      omega
    · simp only [hp, Bool.false_eq_true, if_false]
      omega

/-- A unit that is left out is saved. -/
theorem cost_add_le {p q : UnitName → Bool} (h : ∀ unit, p unit = true → q unit = true)
    {units : List UnitName} {unit : UnitName} (hunit : unit ∈ units) (hp : p unit = false)
    (hq : q unit = true) :
    cost table p units + 2 * (table.of unit).length ≤ cost table q units := by
  induction units with
  | nil => exact absurd hunit List.not_mem_nil
  | cons other units ih =>
    rw [cost_cons, cost_cons]
    by_cases ho : other = unit
    · have hle : cost table p units ≤ cost table q units := cost_le h units
      simp only [ho, hp, hq, if_true, Bool.false_eq_true, if_false]
      omega
    · have hle := ih ((List.mem_cons.mp hunit).resolve_left fun he => ho he.symm)
      by_cases hpo : p other = true
      · simp only [hpo, h other hpo, if_true]
        omega
      · simp only [hpo, Bool.false_eq_true, if_false]
        omega

theorem isFresh_of_isFresh_emit {unit other : UnitName}
    (h : (walk.emit unit).isFresh other = true) : walk.isFresh other = true := by
  simp only [isFresh, emit, Bool.and_eq_true, Bool.not_eq_true'] at h ⊢
  grind

theorem isFresh_of_isFresh_enter {unit other : UnitName}
    (h : (walk.enter unit).isFresh other = true) : walk.isFresh other = true := by
  simp only [isFresh, enter, Bool.and_eq_true, Bool.not_eq_true'] at h ⊢
  grind

/-- **A fresh unit that is entered** costs its own turns no more. -/
theorem cost_enter_add_le {unit : UnitName} (hp : unit ∉ walk.processing)
    (hd : unit ∉ walk.done) :
    cost table (walk.enter unit).isFresh table.keys + 2 * (table.of unit).length ≤
      cost table walk.isFresh table.keys := by
  have hfresh : walk.isFresh unit = true := by
    rw [isFresh, Bool.and_eq_true, Bool.not_eq_true', Bool.not_eq_true', ← Bool.not_eq_true,
      ← Bool.not_eq_true, ← Std.ExtTreeSet.mem_iff_contains, ← Std.ExtTreeSet.mem_iff_contains]
    exact ⟨hd, hp⟩
  have hentered : (walk.enter unit).isFresh unit = false := by
    simp [isFresh, enter]
  by_cases hm : unit ∈ table
  · exact cost_add_le (fun _ => isFresh_of_isFresh_enter) (Std.ExtTreeMap.mem_keys.mpr hm)
      hentered hfresh
  · -- a unit that is not in the table has no prerequisites
    have hnone : (table.of unit).length = 0 := by
      simp [Prerequisites.of, Std.ExtTreeMap.getElem?_eq_none hm]
    rw [hnone]
    exact cost_le (fun _ => isFresh_of_isFresh_enter) table.keys

theorem weight_cons (frame : Frame) (stack : List Frame) :
    weight (frame :: stack) = 2 * frame.waiting.length + 1 + weight stack := rfl

/-- **Every turn leaves less to do.** -/
theorem effort_lt {next : Walk} {rest : List Frame}
    (h : turn table walk stack = .goesOn next rest) :
    effort table next rest < effort table walk stack := by
  unfold effort
  rcases turn_cases h with ⟨unit, rfl, rfl⟩ | ⟨unit, other, waiting, below, rfl, -, rfl, rfl⟩ |
    ⟨unit, other, waiting, below, rfl, hp, hd, rfl, rfl⟩
  · have hle : cost table (walk.emit unit).isFresh table.keys ≤
        cost table walk.isFresh table.keys :=
      cost_le (fun _ => isFresh_of_isFresh_emit) table.keys
    rw [weight_cons]
    omega
  · simp only [weight_cons, List.length_cons]
    omega
  · have hle : cost table (walk.enter other).isFresh table.keys + 2 * (table.of other).length ≤
        cost table walk.isFresh table.keys := cost_enter_add_le hp hd
    simp only [weight_cons, List.length_cons]
    omega

/-- **The loop ends**, wherever it starts, and with the answer of the walk. -/
theorem exists_turns_eq_ends (table : Prerequisites) (walk : Walk) (stack : List Frame) :
    ∃ n ≤ effort table walk stack + 1,
      turns table n walk stack = .ends (run table walk stack) := by
  induction h : effort table walk stack using Nat.strongRecOn generalizing walk stack with
  | ind total ih =>
    cases hturn : turn table walk stack with
    | ends answer =>
      refine ⟨1, by omega, ?_⟩
      rw [run_eq_turn, hturn, turns, hturn]
    | goesOn next rest =>
      have hlt := effort_lt hturn
      obtain ⟨n, hn, hends⟩ := ih _ (h ▸ hlt) next rest rfl
      refine ⟨n + 1, by omega, ?_⟩
      rw [run_eq_turn, hturn, turns, hturn]
      exact hends

/-! ## The states of a walk -/

/-- **A turn keeps the invariant.** -/
theorem Invariant.turn {next : Walk} {rest : List Frame} (h : Invariant table walk stack)
    (hturn : Walk.turn table walk stack = .goesOn next rest) : Invariant table next rest := by
  rcases turn_cases hturn with ⟨unit, rfl, rfl⟩ |
    ⟨unit, other, waiting, below, rfl, hd, rfl, rfl⟩ |
    ⟨unit, other, waiting, below, rfl, hp, hd, rfl, rfl⟩
  · exact h.emit
  · exact h.skip hd
  · exact h.enter hp hd

/-- **The states that a walk from several units comes to**: a unit that has not been emitted is
entered once the units before it are done with, and then the loop takes its turns. -/
inductive Arises (table : Prerequisites) (units : List UnitName) : Walk → List Frame → Prop
  | start {earlier later : List UnitName} {unit : UnitName} {walk : Walk} :
      units = earlier ++ unit :: later → visitAll table {} earlier = .ok walk →
      unit ∉ walk.done → Arises table units (walk.enter unit) [⟨unit, table.of unit⟩]
  | turn {walk next : Walk} {stack rest : List Frame} :
      Arises table units walk stack → turn table walk stack = .goesOn next rest →
      Arises table units next rest

theorem Arises.invariant {units : List UnitName} (h : Arises table units walk stack) :
    Invariant table walk stack := by
  induction h with
  | @start earlier later unit walk hunits hearlier hdone =>
    have hspec := visitAll_spec (Invariant.initial : Invariant table {} []) earlier
    rw [hearlier] at hspec
    exact hspec.invariant.start hdone
  | turn _ hturn ih => exact ih.turn hturn

/-- What waits in a frame of a stack are the prerequisites of its unit from some place on. -/
theorem Stacked.waiting_eq_drop {emitted entered : List UnitName}
    (h : Stacked table emitted entered stack) :
    ∀ frame ∈ stack, ∃ place, frame.waiting = (table.of frame.unit).drop place := by
  induction stack generalizing entered with
  | nil =>
    intro frame hframe
    exact absurd hframe List.not_mem_nil
  | cons top below ih =>
    obtain ⟨⟨passed, heq, -⟩, hbelow⟩ := h
    intro frame hframe
    rcases List.mem_cons.mp hframe with rfl | hframe
    · refine ⟨(passed ++ entered).length, ?_⟩
      rw [heq, ← List.append_assoc, List.drop_left]
    · exact ih hbelow frame hframe

/-- **The walk is a recursive descent.**  From every unit it comes to what the recursion comes
to.  In every state that a walk from several units comes to, the loop ends after a number of
turns that is bounded by the size of the table; a frame holds the prerequisites of its unit from
some place on; the units that have been entered are those on the stack; the emitted ones are
those that are done with, and so are their prerequisites; and when the stack has been worked
off, no unit is left that has been entered and not emitted. -/
theorem visit_descends (table : Prerequisites) (units : List UnitName) :
    (∀ walk unit, visit table walk unit = descend table walk unit) ∧
    ∀ walk stack, Arises table units walk stack →
      (∃ n ≤ effort table walk stack + 1,
        turns table n walk stack = .ends (run table walk stack)) ∧
      (∀ frame ∈ stack, ∃ place, frame.waiting = (table.of frame.unit).drop place) ∧
      (∀ unit, unit ∈ walk.processing ↔ unit ∈ stack.map Frame.unit) ∧
      (∀ unit, unit ∈ walk.done ↔ unit ∈ walk.emitted) ∧
      (∀ unit ∈ walk.done, ∀ other ∈ table.of unit, other ∈ walk.done) ∧
      ∀ last, run table walk stack = .ok last → ∀ unit, unit ∉ last.processing := by
  refine ⟨visit_eq_descend table, fun walk stack h => ?_⟩
  have hinv := h.invariant
  refine ⟨exists_turns_eq_ends table walk stack, hinv.stacked.waiting_eq_drop,
    hinv.mem_processing, hinv.mem_done, ?_, ?_⟩
  · intro unit hunit other hother
    rw [hinv.mem_done] at hunit ⊢
    exact hinv.settled.mem_of_needs hunit hother
  · intro last hlast unit
    have hspec := run_spec hinv
    rw [hlast] at hspec
    rw [hspec.invariant.mem_processing]
    exact List.not_mem_nil

/-- Three units: the app needs the cache and the database, and the cache needs the database. -/
def chainTable : Prerequisites :=
  .ofList [("app", ["cache", "db"]), ("cache", ["db"]), ("db", [])]

/-- The walk from the app ends after eight turns at most. -/
theorem visit_descends_chain :
    Arises chainTable ["app", "db"] (enter {} "app") [⟨"app", chainTable.of "app"⟩] ∧
    ∃ n ≤ 8, turns chainTable n (enter {} "app") [⟨"app", chainTable.of "app"⟩] =
      .ends (visit chainTable {} "app") := by
  have harises : Arises chainTable ["app", "db"] (enter {} "app") [⟨"app", chainTable.of "app"⟩] :=
    @Arises.start chainTable ["app", "db"] [] ["db"] "app" {} rfl rfl (by simp)
  have heffort : effort chainTable (enter {} "app") [⟨"app", chainTable.of "app"⟩] = 7 := by
    decide
  obtain ⟨⟨n, hn, hends⟩, -⟩ := (visit_descends chainTable ["app", "db"]).2 _ _ harises
  rw [heffort] at hn
  exact ⟨harises, n, hn, hends⟩

end Walk
end Activation
