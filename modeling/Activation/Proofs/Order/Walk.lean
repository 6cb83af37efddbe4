import Activation.Order.Walk
import Activation.Proofs.Repetition
import Mathlib.Data.List.Nodup
import Mathlib.Logic.Relation

/-!
# What a walk preserves

A walk keeps four things: the emitted units as a list and as a set, the units that
have been entered, and the stack.  `Walk.Invariant` says how they hang together.
The two sets are exactly the emitted units and the units on the stack, every unit
is in one place at most, the prerequisites of an emitted unit were emitted before
it, and a frame has already dealt with all of its prerequisites that are not
waiting any more.

A walk makes three kinds of steps: it emits a unit, passes over a prerequisite, or
enters one.  Each of them keeps the invariant (`Invariant.emit`, `Invariant.skip`,
`Invariant.enter`), and so does a whole run:

* `run_spec`: a run that succeeds emits everything that was on the stack, and
  besides only what is needed for that.  A run that fails shows two units that need
  each other.
* `visitAll_spec`: the same for a walk from several units.
* `exists_root_of_emitted_before`: what such a walk emits before one of these units is
  needed by that unit or by an earlier one.
* `Settled.not_transGen`: no unit needs itself among units of which each was emitted
  after its prerequisites.  So a walk succeeds only if there is no cycle.
-/

namespace Activation

open Relation

namespace Prerequisites

/-- One unit directly needs another: the other is among its prerequisites. -/
def Needs (table : Prerequisites) (unit other : UnitName) : Prop :=
  other ∈ table.of unit

end Prerequisites

/-- The two units of a clash lie on a cycle: the first directly needs the second, and
the second, perhaps through others, the first. -/
structure Clash.IsCycle (table : Prerequisites) (clash : Clash) : Prop where
  /-- The first unit needs the second. -/
  direct : table.Needs clash.first clash.second
  /-- The second unit needs the first, or is the same. -/
  back : ReflTransGen table.Needs clash.second clash.first

theorem Clash.IsCycle.transGen {table : Prerequisites} {clash : Clash} (h : clash.IsCycle table) :
    TransGen table.Needs clash.first clash.first :=
  TransGen.head' h.direct h.back

namespace Walk

variable {table : Prerequisites}

/-! ## Emitted units -/

/-- Each unit of a list, the latest first, was emitted after its prerequisites. -/
def Settled (table : Prerequisites) : List UnitName → Prop
  | [] => True
  | unit :: earlier => (∀ other, table.Needs unit other → other ∈ earlier) ∧ Settled table earlier

theorem Settled.mem_of_needs {emitted : List UnitName} (h : Settled table emitted)
    {unit other : UnitName} (hu : unit ∈ emitted) (hn : table.Needs unit other) :
    other ∈ emitted := by
  induction emitted with
  | nil => exact absurd hu List.not_mem_nil
  | cons latest earlier ih =>
    rcases List.mem_cons.mp hu with rfl | hu
    · exact List.mem_cons_of_mem _ (h.1 other hn)
    · exact List.mem_cons_of_mem _ (ih h.2 hu)

theorem Settled.mem_of_reflTransGen {emitted : List UnitName} (h : Settled table emitted)
    {unit other : UnitName} (hu : unit ∈ emitted) (hr : ReflTransGen table.Needs unit other) :
    other ∈ emitted := by
  induction hr with
  | refl => exact hu
  | tail _ hn ih => exact h.mem_of_needs ih hn

/-- **No cycle among emitted units**: none of them needs itself, directly or through
others. -/
theorem Settled.not_transGen {emitted : List UnitName} (h : Settled table emitted)
    (hd : emitted.Nodup) {unit : UnitName} (hu : unit ∈ emitted) :
    ¬TransGen table.Needs unit unit := by
  induction emitted with
  | nil => exact absurd hu List.not_mem_nil
  | cons latest earlier ih =>
    rw [List.nodup_cons] at hd
    rcases List.mem_cons.mp hu with rfl | hu
    · intro hc
      obtain ⟨next, hn, hr⟩ := TransGen.head'_iff.mp hc
      exact hd.1 (h.2.mem_of_reflTransGen (h.1 next hn) hr)
    · exact ih h.2 hd.2 hu

/-- A prerequisite stands behind the unit that needs it, as the latest come first. -/
theorem Settled.sublist {emitted : List UnitName} (h : Settled table emitted)
    {unit other : UnitName} (hu : unit ∈ emitted) (hn : table.Needs unit other) :
    [unit, other].Sublist emitted := by
  induction emitted with
  | nil => exact absurd hu List.not_mem_nil
  | cons latest earlier ih =>
    rcases List.mem_cons.mp hu with rfl | hu
    · exact List.Sublist.cons_cons _ (List.singleton_sublist.mpr (h.1 other hn))
    · exact List.Sublist.cons _ (ih h.2 hu)

/-! ## The stack -/

/-- Each frame of a stack has dealt with those of its prerequisites that are not
waiting: they have been emitted, but for the one that the frame above it holds.
What the top frame has entered is given, since no frame is above it. -/
def Stacked (table : Prerequisites) (emitted : List UnitName) :
    List UnitName → List Frame → Prop
  | _, [] => True
  | entered, frame :: below =>
    (∃ passed, table.of frame.unit = passed ++ (entered ++ frame.waiting) ∧
      ∀ other ∈ passed, other ∈ emitted) ∧ Stacked table emitted [frame.unit] below

theorem Stacked.mono {emitted further entered : List UnitName} {stack : List Frame}
    (h : Stacked table emitted entered stack) (hsub : emitted ⊆ further) :
    Stacked table further entered stack := by
  induction stack generalizing entered with
  | nil => trivial
  | cons frame below ih =>
    obtain ⟨⟨passed, heq, hp⟩, hb⟩ := h
    exact ⟨⟨passed, heq, fun other ho => hsub (hp other ho)⟩, ih hb⟩

/-- Every unit on a stack needs what the top frame has entered. -/
theorem Stacked.reflTransGen {emitted : List UnitName} {entered : UnitName}
    {stack : List Frame} (h : Stacked table emitted [entered] stack) {unit : UnitName}
    (hu : unit ∈ stack.map Frame.unit) : ReflTransGen table.Needs unit entered := by
  induction stack generalizing entered with
  | nil => exact absurd hu List.not_mem_nil
  | cons frame below ih =>
    obtain ⟨⟨passed, heq, -⟩, hb⟩ := h
    have hn : table.Needs frame.unit entered := by
      rw [Prerequisites.Needs, heq]
      simp
    rw [List.map_cons, List.mem_cons] at hu
    rcases hu with rfl | hu
    · exact ReflTransGen.single hn
    · exact (ih hb hu).tail hn

/-! ## The invariant -/

/-- **How the parts of a walk and its stack hang together.** -/
structure Invariant (table : Prerequisites) (walk : Walk) (stack : List Frame) : Prop where
  /-- The set of emitted units and the list of them agree. -/
  mem_done : ∀ unit, unit ∈ walk.done ↔ unit ∈ walk.emitted
  /-- The units entered and not yet emitted are those on the stack. -/
  mem_processing : ∀ unit, unit ∈ walk.processing ↔ unit ∈ stack.map Frame.unit
  /-- No unit is twice on the stack, twice emitted, or both. -/
  nodup : (stack.map Frame.unit ++ walk.emitted).Nodup
  /-- Emitted units came after their prerequisites. -/
  settled : Settled table walk.emitted
  /-- The frames have dealt with what is not waiting. -/
  stacked : Stacked table walk.emitted [] stack

namespace Invariant

variable {walk : Walk} {stack : List Frame} {unit next : UnitName} {waiting : List UnitName}

theorem initial : Invariant table {} [] where
  mem_done := by simp
  mem_processing := by simp
  nodup := List.nodup_nil
  settled := trivial
  stacked := trivial

/-- The top unit of a stack stands nowhere else. -/
theorem top_notMem (h : Invariant table walk (⟨unit, waiting⟩ :: stack)) :
    unit ∉ stack.map Frame.unit ∧ unit ∉ walk.emitted := by
  have hnodup := h.nodup
  rw [List.map_cons, List.cons_append, List.nodup_cons, List.mem_append, not_or] at hnodup
  exact hnodup.1

/-- A frame with nothing waiting is taken off the stack and its unit is emitted. -/
theorem emit (h : Invariant table walk (⟨unit, []⟩ :: stack)) :
    Invariant table (walk.emit unit) stack := by
  obtain ⟨hstack, hemitted⟩ := h.top_notMem
  obtain ⟨⟨passed, heq, hp⟩, hb⟩ := h.stacked
  refine ⟨fun other => ?_, fun other => ?_, ?_, ⟨fun other hn => ?_, h.settled⟩, ?_⟩
  · have hd := h.mem_done other
    simp only [Walk.emit, Std.ExtTreeSet.mem_insert, Std.LawfulEqCmp.compare_eq_iff_eq,
      List.mem_cons]
    rw [hd, eq_comm]
  · have hpr := h.mem_processing other
    rw [List.map_cons, List.mem_cons] at hpr
    simp only [Walk.emit, Std.ExtTreeSet.mem_erase, ne_eq, Std.LawfulEqCmp.compare_eq_iff_eq]
    rw [hpr]
    constructor
    · rintro ⟨hne, rfl | hs⟩
      · exact absurd rfl hne
      · exact hs
    · intro hs
      refine ⟨?_, Or.inr hs⟩
      rintro rfl
      exact hstack hs
  · have hnodup := h.nodup
    rw [List.map_cons, List.cons_append] at hnodup
    exact List.perm_middle.symm.nodup_iff.mp hnodup
  · have hall : table.of unit = passed := by simpa using heq
    rw [Prerequisites.Needs, hall] at hn
    exact hp other hn
  · cases stack with
    | nil => trivial
    | cons frame below =>
      -- the frame below had entered the unit, which is emitted now
      obtain ⟨⟨before, heq, hbefore⟩, hb⟩ := hb
      refine ⟨⟨before ++ [unit], ?_, ?_⟩, hb.mono (List.subset_cons_self _ _)⟩
      · rw [heq]
        simp
      · intro other ho
        rcases List.mem_append.mp ho with ho | ho
        · exact List.mem_cons_of_mem _ (hbefore other ho)
        · rw [List.mem_singleton] at ho
          rw [ho]
          exact List.mem_cons_self

/-- A prerequisite that is emitted already is passed over. -/
theorem skip (h : Invariant table walk (⟨unit, next :: waiting⟩ :: stack))
    (hnext : next ∈ walk.done) : Invariant table walk (⟨unit, waiting⟩ :: stack) := by
  obtain ⟨⟨passed, heq, hp⟩, hb⟩ := h.stacked
  refine ⟨h.mem_done, h.mem_processing, h.nodup, h.settled, ⟨⟨passed ++ [next], ?_, ?_⟩, hb⟩⟩
  · simpa using heq
  · intro other ho
    rcases List.mem_append.mp ho with ho | ho
    · exact hp other ho
    · rw [List.mem_singleton] at ho
      rw [ho]
      exact (h.mem_done next).mp hnext

/-- A unit that is neither on the stack nor emitted is put on a stack whose frames
are ready for it. -/
theorem push {ready : List Frame} (h : Invariant table walk stack)
    (hunits : stack.map Frame.unit = ready.map Frame.unit)
    (hready : Stacked table walk.emitted [next] ready) (hprocessing : next ∉ walk.processing)
    (hdone : next ∉ walk.done) :
    Invariant table (walk.enter next) (⟨next, table.of next⟩ :: ready) := by
  have hstack : next ∉ ready.map Frame.unit := by
    rw [← hunits, ← h.mem_processing]
    exact hprocessing
  refine ⟨h.mem_done, fun other => ?_, ?_, h.settled, ⟨⟨[], rfl, ?_⟩, hready⟩⟩
  · have hpr := h.mem_processing other
    simp only [Walk.enter, Std.ExtTreeSet.mem_insert, Std.LawfulEqCmp.compare_eq_iff_eq,
      List.map_cons, List.mem_cons]
    rw [hpr, hunits, eq_comm]
  · rw [List.map_cons, List.cons_append, List.nodup_cons, List.mem_append, not_or]
    refine ⟨⟨hstack, fun he => hdone ((h.mem_done next).mpr he)⟩, ?_⟩
    rw [← hunits]
    exact h.nodup
  · intro other ho
    exact absurd ho List.not_mem_nil

/-- A walk from a further unit starts with that unit alone on the stack. -/
theorem start (h : Invariant table walk []) (hdone : unit ∉ walk.done) :
    Invariant table (walk.enter unit) [⟨unit, table.of unit⟩] := by
  refine h.push rfl (trivial : Stacked table walk.emitted [unit] []) ?_ hdone
  rw [h.mem_processing]
  exact List.not_mem_nil

/-- A prerequisite that is neither on the stack nor emitted is entered. -/
theorem enter (h : Invariant table walk (⟨unit, next :: waiting⟩ :: stack))
    (hprocessing : next ∉ walk.processing) (hdone : next ∉ walk.done) :
    Invariant table (walk.enter next) (⟨next, table.of next⟩ :: ⟨unit, waiting⟩ :: stack) := by
  obtain ⟨⟨passed, heq, hp⟩, hb⟩ := h.stacked
  have hready : Stacked table walk.emitted [next] (⟨unit, waiting⟩ :: stack) :=
    ⟨⟨passed, heq, hp⟩, hb⟩
  exact h.push rfl hready hprocessing hdone

/-- What the top frame is waiting for is among its prerequisites. -/
theorem needs (h : Invariant table walk (⟨unit, next :: waiting⟩ :: stack)) :
    table.Needs unit next := by
  obtain ⟨⟨passed, heq, -⟩, -⟩ := h.stacked
  rw [Prerequisites.Needs, heq]
  simp

end Invariant

/-! ## Whole walks -/

/-- **What a walk from given units has done when it ends**: it has emitted them all,
after what had been emitted before, and besides only what one of them needs. -/
structure Completes (table : Prerequisites) (walk : Walk) (roots : List UnitName)
    (last : Walk) : Prop where
  /-- Nothing is left on the stack. -/
  invariant : Invariant table last []
  /-- What had been emitted stays, and the new units come after it. -/
  emitted : walk.emitted <:+ last.emitted
  /-- The units are emitted. -/
  covers : ∀ root ∈ roots, root ∈ last.emitted
  /-- Whatever is emitted newly is needed. -/
  needed : ∀ unit ∈ last.emitted, unit ∈ walk.emitted ∨
    ∃ root ∈ roots, ReflTransGen table.Needs root unit

/-- What the answer of a walk from given units stands for. -/
def Answers (table : Prerequisites) (walk : Walk) (roots : List UnitName) :
    Except Clash Walk → Prop
  | .ok last => Completes table walk roots last
  | .error clash => clash.IsCycle table

namespace Completes

variable {walk middle last : Walk} {roots further : List UnitName}

/-- A walk that has nothing to do has done it. -/
theorem nil (h : Invariant table walk []) : Completes table walk [] walk where
  invariant := h
  emitted := List.suffix_refl _
  covers _ hr := absurd hr List.not_mem_nil
  needed _ hu := Or.inl hu

/-- One walk continues another. -/
theorem append (h : Completes table walk roots middle) (h' : Completes table middle further last) :
    Completes table walk (roots ++ further) last where
  invariant := h'.invariant
  emitted := h.emitted.trans h'.emitted
  covers root hr := by
    rcases List.mem_append.mp hr with hr | hr
    · exact h'.emitted.subset (h.covers root hr)
    · exact h'.covers root hr
  needed unit hu := by
    rcases h'.needed unit hu with hm | ⟨root, hr, hn⟩
    · rcases h.needed unit hm with hw | ⟨root, hr, hn⟩
      · exact Or.inl hw
      · exact Or.inr ⟨root, List.mem_append_left _ hr, hn⟩
    · exact Or.inr ⟨root, List.mem_append_right _ hr, hn⟩

/-- A unit emitted already need not be walked from. -/
theorem cons_of_mem {unit : UnitName} (h : Completes table walk roots last)
    (hu : unit ∈ walk.emitted) : Completes table walk (unit :: roots) last where
  invariant := h.invariant
  emitted := h.emitted
  covers root hr := by
    rcases List.mem_cons.mp hr with rfl | hr
    · exact h.emitted.subset hu
    · exact h.covers root hr
  needed other ho := by
    rcases h.needed other ho with hw | ⟨root, hr, hn⟩
    · exact Or.inl hw
    · exact Or.inr ⟨root, List.mem_cons_of_mem _ hr, hn⟩

/-- A walk after a unit was emitted is also one from that unit. -/
theorem of_emit {unit : UnitName} (h : Completes table (walk.emit unit) roots last) :
    Completes table walk (unit :: roots) last where
  invariant := h.invariant
  emitted := (List.suffix_cons unit walk.emitted).trans h.emitted
  covers root hr := by
    rcases List.mem_cons.mp hr with rfl | hr
    · exact h.emitted.subset List.mem_cons_self
    · exact h.covers root hr
  needed other ho := by
    rcases h.needed other ho with hw | ⟨root, hr, hn⟩
    · rcases List.mem_cons.mp hw with rfl | hw
      · exact Or.inr ⟨other, List.mem_cons_self, ReflTransGen.refl⟩
      · exact Or.inl hw
    · exact Or.inr ⟨root, List.mem_cons_of_mem _ hr, hn⟩

/-- A unit that another one needs does not count as a root beside it. -/
theorem of_enter {unit next : UnitName}
    (h : Completes table (walk.enter next) (next :: unit :: roots) last)
    (hn : table.Needs unit next) : Completes table walk (unit :: roots) last where
  invariant := h.invariant
  emitted := h.emitted
  covers root hr := h.covers root (List.mem_cons_of_mem _ hr)
  needed other ho := by
    rcases h.needed other ho with hw | ⟨root, hr, hn'⟩
    · exact Or.inl hw
    · rcases List.mem_cons.mp hr with rfl | hr
      · exact Or.inr ⟨unit, List.mem_cons_self, ReflTransGen.head hn hn'⟩
      · exact Or.inr ⟨root, hr, hn'⟩

end Completes

theorem Answers.imp {walk walk' : Walk} {roots roots' : List UnitName}
    (himp : ∀ last, Completes table walk roots last → Completes table walk' roots' last)
    {answer : Except Clash Walk} (h : Answers table walk roots answer) :
    Answers table walk' roots' answer := by
  cases answer with
  | ok last => exact himp last h
  | error clash => exact h

/-- **A run from a stack** emits the units on the stack, or it finds a cycle. -/
theorem run_spec {walk : Walk} {stack : List Frame} (h : Invariant table walk stack) :
    Answers table walk (stack.map Frame.unit) (run table walk stack) := by
  induction walk, stack using run.induct table with
  | case1 walk =>
    rw [run]
    exact Completes.nil h
  | case2 walk unit stack ih =>
    rw [run]
    exact (ih h.emit).imp fun last hlast => hlast.of_emit
  | case3 walk unit next waiting stack hp =>
    rw [run, if_pos hp]
    -- the prerequisite has been entered, so it is below on the stack
    have hmem := (h.mem_processing next).mp (Std.ExtTreeSet.mem_iff_contains.mpr hp)
    rw [List.map_cons, List.mem_cons] at hmem
    refine ⟨h.needs, ?_⟩
    rcases hmem with rfl | hmem
    · exact ReflTransGen.refl
    · exact h.stacked.2.reflTransGen hmem
  | case4 walk unit next waiting stack hp hd ih =>
    rw [run, if_neg hp, if_pos hd]
    exact ih (h.skip (Std.ExtTreeSet.mem_iff_contains.mpr hd))
  | case5 walk unit next waiting stack hp hd ih =>
    rw [run, if_neg hp, if_neg hd]
    have hrun := ih (h.enter (fun hm => hp (Std.ExtTreeSet.mem_iff_contains.mp hm))
      fun hm => hd (Std.ExtTreeSet.mem_iff_contains.mp hm))
    exact hrun.imp fun last hlast => hlast.of_enter h.needs

/-- **A walk from one unit** that has not been emitted yet. -/
theorem visit_spec {walk : Walk} {unit : UnitName} (h : Invariant table walk [])
    (hdone : unit ∉ walk.done) : Answers table walk [unit] (visit table walk unit) := by
  have hrun : Answers table (walk.enter unit) [unit] (visit table walk unit) :=
    run_spec (h.start hdone)
  refine Answers.imp (fun last hlast => ?_) hrun
  exact ⟨hlast.invariant, hlast.emitted, hlast.covers, hlast.needed⟩

/-- **A walk from several units.** -/
theorem visitAll_spec {walk : Walk} (h : Invariant table walk []) (units : List UnitName) :
    Answers table walk units (visitAll table walk units) := by
  induction units generalizing walk with
  | nil => exact Completes.nil h
  | cons unit units ih =>
    rw [visitAll]
    by_cases hd : unit ∈ walk.done
    · rw [if_pos (Std.ExtTreeSet.mem_iff_contains.mp hd)]
      exact (ih h).imp fun last hlast => hlast.cons_of_mem ((h.mem_done unit).mp hd)
    · rw [if_neg fun hc => hd (Std.ExtTreeSet.mem_iff_contains.mpr hc)]
      have hvisit := visit_spec h hd
      cases hv : visit table walk unit with
      | error clash =>
        rw [hv] at hvisit
        exact hvisit
      | ok middle =>
        rw [hv] at hvisit
        exact (ih hvisit.invariant).imp fun last hlast => hvisit.append hlast

/-- New units without prerequisites are emitted as they stand. -/
theorem visitAll_of_free {walk : Walk} {units : List UnitName}
    (free : ∀ unit ∈ units, table.of unit = []) (distinct : units.Nodup)
    (new : ∀ unit ∈ units, unit ∉ walk.done) :
    ∃ last, visitAll table walk units = .ok last ∧
      last.emitted = units.reverse ++ walk.emitted := by
  induction units generalizing walk with
  | nil => exact ⟨walk, rfl, rfl⟩
  | cons unit units ih =>
    obtain ⟨hfree, hothers⟩ := List.forall_mem_cons.mp free
    obtain ⟨hunit, hdistinct⟩ := List.nodup_cons.mp distinct
    obtain ⟨hnew, holds⟩ := List.forall_mem_cons.mp new
    have hvisit : visit table walk unit = .ok ((walk.enter unit).emit unit) := by
      rw [visit, hfree, run, run]
    have hnext : ∀ other ∈ units, other ∉ ((walk.enter unit).emit unit).done := by
      intro other ho hd
      rw [emit, Std.ExtTreeSet.mem_insert, Std.LawfulEqCmp.compare_eq_iff_eq] at hd
      rcases hd with rfl | hd
      · exact hunit ho
      · exact holds other ho hd
    obtain ⟨last, hlast, hemitted⟩ := ih hothers hdistinct hnext
    refine ⟨last, ?_, ?_⟩
    · rw [visitAll, if_neg fun hc => hnew (Std.ExtTreeSet.mem_iff_contains.mpr hc), hvisit]
      exact hlast
    · rw [hemitted, List.reverse_cons, List.append_assoc]
      rfl

/-- A walk from some units and then from others is a walk from all of them. -/
theorem visitAll_append (walk : Walk) (units further : List UnitName) :
    visitAll table walk (units ++ further) =
      (visitAll table walk units).bind fun middle => visitAll table middle further := by
  induction units generalizing walk with
  | nil => rfl
  | cons unit units ih =>
    rw [List.cons_append, visitAll, visitAll]
    split
    · exact ih walk
    · cases visit table walk unit with
      | error clash => rfl
      | ok middle => exact ih middle

/-- **A walk can be halted** between any two of the units from which it walks. -/
theorem exists_halt {walk last : Walk} (h : Invariant table walk [])
    {units further : List UnitName} (hlast : visitAll table walk (units ++ further) = .ok last) :
    ∃ middle, Completes table walk units middle ∧ Completes table middle further last := by
  rw [visitAll_append] at hlast
  have hunits := visitAll_spec h units
  cases hm : visitAll table walk units with
  | error clash =>
    rw [hm] at hlast
    exact nomatch hlast
  | ok middle =>
    rw [hm] at hunits hlast
    have hfurther := visitAll_spec hunits.invariant further
    have hend : visitAll table middle further = .ok last := hlast
    rw [hend] at hfurther
    exact ⟨middle, hunits, hfurther⟩

/-- **What is emitted before a unit from which the walk starts anew** is needed by that unit or
by one from which it started earlier. -/
theorem exists_root_of_emitted_before {earlier later : List UnitName} {unit other : UnitName}
    {last : Walk} (hlast : visitAll table {} (earlier ++ unit :: later) = .ok last)
    (hbefore : [unit, other].Sublist last.emitted) :
    ∃ root ∈ earlier ++ [unit], ReflTransGen table.Needs root other := by
  rw [List.append_cons] at hlast
  obtain ⟨middle, hmiddle, hrest⟩ := exists_halt Invariant.initial hlast
  obtain ⟨new, hnew⟩ := hrest.emitted
  have hunit : unit ∈ middle.emitted := hmiddle.covers unit (by simp)
  -- the latest come first, so what was emitted before the unit was there at the halt
  have hother : other ∈ middle.emitted := by
    have hnodup := hrest.invariant.nodup
    rw [List.map_nil, List.nil_append, ← hnew] at hnodup
    rw [← hnew] at hbefore
    exact Repetition.mem_of_pair_sublist_append hnodup hbefore hunit
  exact (hmiddle.needed other hother).resolve_left List.not_mem_nil

end Walk
end Activation
