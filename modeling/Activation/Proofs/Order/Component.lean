import Activation.Order.Component
import Activation.Proofs.Order.Prerequisites
import Activation.Proofs.Order.Walk

/-!
# What is tangled up with a unit

The members of a cycle are read off two searches, one through the table of prerequisites
and one through the table that stands for the same relation read the other way.  A search
keeps a set of what it has found and a list of what is waiting.

* `mem_closure`: a search from a unit finds what the unit needs, directly or through
  others, and the unit itself.  That nothing else is found holds of every step of the
  search; that nothing is left out holds since no step loses what is waiting
  (`mem_reach_of_needs`).
* `needs_reversed`: the reversed table stands for the reversed relation.
* `mem_members`: so, among distinct units, the members are those which the unit needs and
  which need it.
-/

namespace Activation

open Relation

namespace Prerequisites

variable {table : Prerequisites} {found : Std.ExtTreeSet UnitName} {waiting : List UnitName}
  {unit other : UnitName}

/-! ## The search -/

/-- Whatever a search finds was found before or is needed by what was waiting. -/
theorem reflTransGen_of_mem_reach (h : other ∈ table.reach found waiting) :
    other ∈ found ∨ ∃ start ∈ waiting, ReflTransGen table.Needs start other := by
  induction found, waiting using reach.induct table with
  | case1 found =>
    rw [reach] at h
    exact Or.inl h
  | case2 found unit waiting hc ih =>
    rw [reach, if_pos hc] at h
    rcases ih h with hf | ⟨start, hs, hn⟩
    · exact Or.inl hf
    · exact Or.inr ⟨start, List.mem_cons_of_mem _ hs, hn⟩
  | case3 found unit waiting hc ih =>
    rw [reach, if_neg hc] at h
    rcases ih h with hf | ⟨start, hs, hn⟩
    · rw [Std.ExtTreeSet.mem_insert, Std.LawfulEqCmp.compare_eq_iff_eq] at hf
      rcases hf with rfl | hf
      · exact Or.inr ⟨unit, List.mem_cons_self, ReflTransGen.refl⟩
      · exact Or.inl hf
    · rcases List.mem_append.mp hs with hs | hs
      · exact Or.inr ⟨unit, List.mem_cons_self, ReflTransGen.head hs hn⟩
      · exact Or.inr ⟨start, List.mem_cons_of_mem _ hs, hn⟩

/-- What stands at the front of the waiting units and has been found need not wait. -/
theorem found_or_waiting_of_pass (hc : found.contains unit = true)
    (h : other ∈ found ∨ other ∈ unit :: waiting) : other ∈ found ∨ other ∈ waiting := by
  rcases h with hf | hw
  · exact Or.inl hf
  · rcases List.mem_cons.mp hw with rfl | hw
    · exact Or.inl (Std.ExtTreeSet.mem_iff_contains.mpr hc)
    · exact Or.inr hw

/-- Finding the front of the waiting units loses nothing of what was found or waiting. -/
theorem found_or_waiting_of_find (h : other ∈ found ∨ other ∈ unit :: waiting) :
    other ∈ found.insert unit ∨ other ∈ table.of unit ++ waiting := by
  rw [Std.ExtTreeSet.mem_insert, Std.LawfulEqCmp.compare_eq_iff_eq, List.mem_append]
  rcases h with hf | hw
  · exact Or.inl (Or.inr hf)
  · rcases List.mem_cons.mp hw with rfl | hw
    · exact Or.inl (Or.inl rfl)
    · exact Or.inr (Or.inr hw)

/-- A search keeps what was found and finds what was waiting. -/
theorem mem_reach_of_mem (h : other ∈ found ∨ other ∈ waiting) :
    other ∈ table.reach found waiting := by
  induction found, waiting using reach.induct table with
  | case1 found =>
    rw [reach]
    exact h.resolve_right List.not_mem_nil
  | case2 found unit waiting hc ih =>
    rw [reach, if_pos hc]
    exact ih (found_or_waiting_of_pass hc h)
  | case3 found unit waiting hc ih =>
    rw [reach, if_neg hc]
    exact ih (found_or_waiting_of_find h)

/-- **A search leaves nothing out**: if all that the found units need is found or waiting at
the start, then all that the found units need is found in the end. -/
theorem mem_reach_of_needs
    (hopen : ∀ unit ∈ found, ∀ other, table.Needs unit other → other ∈ found ∨ other ∈ waiting)
    (hunit : unit ∈ table.reach found waiting) (hneeds : table.Needs unit other) :
    other ∈ table.reach found waiting := by
  induction found, waiting using reach.induct table with
  | case1 found =>
    rw [reach] at hunit ⊢
    exact (hopen unit hunit other hneeds).resolve_right List.not_mem_nil
  | case2 found start waiting hc ih =>
    rw [reach, if_pos hc] at hunit ⊢
    refine ih (fun unit hu other hn => ?_) hunit
    exact found_or_waiting_of_pass hc (hopen unit hu other hn)
  | case3 found start waiting hc ih =>
    rw [reach, if_neg hc] at hunit ⊢
    refine ih (fun unit hu other hn => ?_) hunit
    rw [Std.ExtTreeSet.mem_insert, Std.LawfulEqCmp.compare_eq_iff_eq] at hu
    rcases hu with rfl | hu
    · -- what the unit just found needs is put in front of the waiting units
      exact Or.inr (List.mem_append_left _ hn)
    · exact found_or_waiting_of_find (hopen unit hu other hn)

/-- **The closure of a unit** is what it needs, directly or through others, and itself. -/
theorem mem_closure : other ∈ table.closure unit ↔ ReflTransGen table.Needs unit other := by
  constructor
  · intro h
    rcases reflTransGen_of_mem_reach h with hf | ⟨start, hs, hn⟩
    · exact absurd hf Std.ExtTreeSet.not_mem_empty
    · rwa [← List.mem_singleton.mp hs]
  · intro h
    induction h with
    | refl => exact mem_reach_of_mem (Or.inr List.mem_cons_self)
    | tail _ hn ih =>
      refine mem_reach_of_needs (fun unit hu => ?_) ih hn
      exact absurd hu Std.ExtTreeSet.not_mem_empty

/-! ## The relation read the other way -/

/-- Noting one entry under several units adds just that to the relation. -/
theorem needs_foldl_note_iff (units : List UnitName) (entry : UnitName) :
    Needs (units.foldl (fun table unit => table.note unit entry) table) unit other ↔
      table.Needs unit other ∨ entry = other ∧ unit ∈ units := by
  rw [Needs, Needs, of_foldl_note]
  by_cases hu : unit ∈ units
  · by_cases hm : entry ∈ table.of unit
    · rw [if_pos hu, if_pos (List.contains_iff_mem.mpr hm)]
      refine ⟨Or.inl, ?_⟩
      rintro (h | ⟨rfl, -⟩)
      · exact h
      · exact hm
    · rw [if_pos hu, if_neg fun hc => hm (List.contains_iff_mem.mp hc), List.mem_append,
        List.mem_singleton]
      exact or_congr_right ⟨fun h => ⟨h.symm, hu⟩, fun h => h.1.symm⟩
  · rw [if_neg hu]
    exact ⟨Or.inl, fun h => h.resolve_right fun hn => hu hn.2⟩

/-- Noting several units, each under the units of its own list. -/
theorem needs_foldl_foldl_note_iff (entries : List (UnitName × List UnitName)) :
    Needs (entries.foldl (fun reverse entry =>
        entry.2.foldl (fun reverse unit => reverse.note unit entry.1) reverse) table) unit other ↔
      table.Needs unit other ∨ ∃ entry ∈ entries, entry.1 = other ∧ unit ∈ entry.2 := by
  induction entries generalizing table with
  | nil => simp
  | cons entry entries ih =>
    rw [List.foldl_cons, ih, needs_foldl_note_iff, List.exists_mem_cons_iff, or_assoc]

theorem of_map_nil (table : Prerequisites) (unit : UnitName) :
    of (table.map fun _ _ => []) unit = [] := by
  rw [of, Std.ExtTreeMap.getElem?_map]
  cases table[unit]? <;> rfl

theorem needs_iff_exists_entry :
    table.Needs unit other ↔ ∃ entry ∈ table.toList, entry.1 = unit ∧ other ∈ entry.2 := by
  rw [Needs, of]
  constructor
  · intro h
    cases hg : table[unit]? with
    | none =>
      rw [hg] at h
      exact absurd h List.not_mem_nil
    | some entries =>
      rw [hg] at h
      exact ⟨(unit, entries), Std.ExtTreeMap.mem_toList_iff_getElem?_eq_some.mpr hg, rfl, h⟩
  · rintro ⟨⟨key, entries⟩, he, rfl, ho⟩
    rw [Std.ExtTreeMap.mem_toList_iff_getElem?_eq_some.mp he]
    exact ho

/-- **The reversed table** stands for the same relation, read the other way. -/
theorem needs_reversed : table.reversed.Needs unit other ↔ table.Needs other unit := by
  rw [reversed, needs_foldl_foldl_note_iff, ← needs_iff_exists_entry, Needs, of_map_nil,
    or_iff_right List.not_mem_nil]

theorem mem_closure_reversed :
    other ∈ table.reversed.closure unit ↔ ReflTransGen table.Needs other unit := by
  have hrel : table.reversed.Needs = Function.swap table.Needs :=
    funext fun unit => funext fun other => propext needs_reversed
  rw [mem_closure, hrel, reflTransGen_swap]

/-! ## The members of a cycle -/

/-- Distinct units are never met at a place where they stand by themselves. -/
theorem members_eq_filter {units : List UnitName} (distinct : units.Nodup) (unit : UnitName) :
    table.members units unit = units.filter fun other =>
      (table.closure unit).contains other && (table.reversed.closure unit).contains other := by
  have hcount : ¬1 < units.count unit :=
    Nat.not_lt.mpr (List.nodup_iff_count_le_one.mp distinct unit)
  have halone : table.standsAlone units unit = false := by
    rw [standsAlone, decide_eq_false hcount, Bool.false_and]
  rw [members, halone]
  rfl

/-- **The members of a cycle** among distinct units are those which the unit needs and which
need it. -/
theorem mem_members {units : List UnitName} (distinct : units.Nodup) :
    other ∈ table.members units unit ↔
      other ∈ units ∧ ReflTransGen table.Needs unit other ∧
        ReflTransGen table.Needs other unit := by
  rw [members_eq_filter distinct, List.mem_filter, Bool.and_eq_true,
    ← Std.ExtTreeSet.mem_iff_contains, ← Std.ExtTreeSet.mem_iff_contains, mem_closure,
    mem_closure_reversed]

theorem members_sublist {units : List UnitName} (distinct : units.Nodup) :
    (table.members units unit).Sublist units := by
  rw [members_eq_filter distinct]
  exact List.filter_sublist

end Prerequisites
end Activation
