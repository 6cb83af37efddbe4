import Mathlib.Data.List.Induction
import Mathlib.Data.List.Nodup

/-!
# Lists without repetitions

`List.eraseDups` keeps every entry of a list at its first place only.  A list
grows at its end, and then the result grows at its end too or stays as it is
(`eraseDups_concat`).  So facts about it are shown by induction from the end:

* `nodup_eraseDups`, `eraseDups_eq_self`: nothing is left twice, and all is left where nothing
  is repeated.
* `pairwise_idxOf_eraseDups`: what is left stands in the order in which it was
  first seen.
* `eraseDups_append_of_disjoint`: lists that share nothing are treated apart.
* `eraseDups_filter`: entries may be left out before or after.
* `eraseDups_eraseDups_append`: repetitions may be left out of a part first.

Of a list without repetitions, the length says how many entries there are
(`length_eq_one_iff`), and of two entries one stands before the other
(`pair_sublist_or`, `not_pair_sublist`).
-/

namespace Activation
namespace Repetition

variable {α : Type} [BEq α] [LawfulBEq α]

/-- A further entry at the end is kept exactly if it is new. -/
theorem eraseDups_concat (xs : List α) (x : α) :
    (xs ++ [x]).eraseDups = if xs.contains x then xs.eraseDups else xs.eraseDups ++ [x] := by
  rw [List.eraseDups_append]
  by_cases h : x ∈ xs
  · simp [List.removeAll, h]
  · simp [List.removeAll, h, List.eraseDups_cons]

theorem nodup_eraseDups (xs : List α) : xs.eraseDups.Nodup := by
  induction xs using List.reverseRecOn with
  | nil => simp
  | append_singleton xs x ih =>
    rw [eraseDups_concat]
    split
    · exact ih
    · next h =>
      rw [List.nodup_append]
      refine ⟨ih, List.nodup_singleton x, ?_⟩
      intro y hy z hz
      rw [List.mem_singleton] at hz
      rintro rfl
      rw [List.mem_eraseDups, hz] at hy
      exact h (List.contains_iff_mem.mpr hy)

/-- Where nothing is repeated, all is left. -/
theorem eraseDups_eq_self {xs : List α} (h : xs.Nodup) : xs.eraseDups = xs := by
  induction xs using List.reverseRecOn with
  | nil => rfl
  | append_singleton xs x ih =>
    rw [List.nodup_append] at h
    have hx : ¬xs.contains x = true := fun hm =>
      h.2.2 x (List.contains_iff_mem.mp hm) x (List.mem_singleton_self x) rfl
    rw [eraseDups_concat, if_neg hx, ih h.1]

/-- What is left stands in the order of first places. -/
theorem pairwise_idxOf_eraseDups (xs : List α) :
    xs.eraseDups.Pairwise fun x y => xs.idxOf x < xs.idxOf y := by
  induction xs using List.reverseRecOn with
  | nil => simp
  | append_singleton xs x ih =>
    have hold : xs.eraseDups.Pairwise fun y z => (xs ++ [x]).idxOf y < (xs ++ [x]).idxOf z := by
      refine ih.imp_of_mem fun {y z} hy hz hlt => ?_
      rw [List.mem_eraseDups] at hy hz
      rwa [List.idxOf_append_of_mem hy, List.idxOf_append_of_mem hz]
    rw [eraseDups_concat]
    split
    · exact hold
    · next h =>
      have hx : x ∉ xs := fun hm => h (List.contains_iff_mem.mpr hm)
      rw [List.pairwise_append]
      refine ⟨hold, List.pairwise_singleton _ _, ?_⟩
      intro y hy z hz
      rw [List.mem_singleton] at hz
      rw [List.mem_eraseDups] at hy
      rw [hz, List.idxOf_append_of_mem hy, List.idxOf_append_of_notMem hx]
      exact Nat.lt_of_lt_of_le (List.idxOf_lt_length_of_mem hy) (Nat.le_add_right _ _)

theorem eraseDups_append_of_disjoint {xs ys : List α} (h : ∀ x ∈ xs, x ∉ ys) :
    (xs ++ ys).eraseDups = xs.eraseDups ++ ys.eraseDups := by
  have hrest : ys.removeAll xs = ys := by
    rw [List.removeAll, List.filter_eq_self]
    intro y hy
    have hn : y ∉ xs := fun hx => h y hx hy
    simpa using hn
  rw [List.eraseDups_append, hrest]

/-- Entries may be left out before or after. -/
theorem eraseDups_filter (p : α → Bool) (xs : List α) :
    (xs.filter p).eraseDups = xs.eraseDups.filter p := by
  induction xs using List.reverseRecOn with
  | nil => simp
  | append_singleton xs x ih =>
    rw [List.filter_append, eraseDups_concat]
    cases hp : p x with
    | false =>
      rw [List.filter_cons_of_neg (by simp [hp]), List.filter_nil, List.append_nil, ih]
      split
      · rfl
      · simp [hp]
    | true =>
      have hseen : (xs.filter p).contains x = xs.contains x := by
        rw [Bool.eq_iff_iff, List.contains_iff_mem, List.contains_iff_mem, List.mem_filter]
        simp [hp]
      rw [List.filter_cons_of_pos hp, List.filter_nil, eraseDups_concat, hseen, ih]
      split
      · rfl
      · simp [hp]

/-- Repetitions may be left out of the front first. -/
theorem eraseDups_eraseDups_append (xs ys : List α) :
    (xs.eraseDups ++ ys).eraseDups = (xs ++ ys).eraseDups := by
  have hrest : ys.removeAll xs.eraseDups = ys.removeAll xs := by
    refine List.filter_congr fun y _ => ?_
    simp
  rw [List.eraseDups_append, List.eraseDups_append, eraseDups_eq_self (nodup_eraseDups xs), hrest]

omit [BEq α] [LawfulBEq α] in
/-- Without repetitions, the length is one if there is exactly one entry. -/
theorem length_eq_one_iff {xs : List α} (h : xs.Nodup) : xs.length = 1 ↔ ∃! x, x ∈ xs := by
  rw [List.length_eq_one_iff]
  constructor
  · rintro ⟨x, rfl⟩
    exact ⟨x, List.mem_singleton_self x, fun y hy => List.mem_singleton.mp hy⟩
  · rintro ⟨x, hx, hunique⟩
    exact ⟨x, List.perm_singleton.mp <| (List.perm_ext_iff_of_nodup h (List.nodup_singleton x)).mpr
      fun y => by
        rw [List.mem_singleton]
        exact ⟨hunique y, fun hy => hy ▸ hx⟩⟩

/-! ## Which of two entries comes first -/

section Pairs

variable {β : Type} {xs ys : List β} {x y : β}

/-- Of two different entries of a list, one stands before the other. -/
theorem pair_sublist_or (hx : x ∈ xs) (hy : y ∈ xs) (hne : x ≠ y) :
    [x, y].Sublist xs ∨ [y, x].Sublist xs := by
  obtain ⟨before, after, rfl⟩ := List.append_of_mem hx
  rw [List.mem_append, List.mem_cons] at hy
  rcases hy with hy | rfl | hy
  · right
    exact (List.singleton_sublist.mpr hy).append (List.singleton_sublist.mpr List.mem_cons_self)
  · exact absurd rfl hne
  · left
    have hpair : [x, y].Sublist (x :: after) := (List.singleton_sublist.mpr hy).cons_cons x
    exact hpair.trans (List.sublist_append_right before _)

/-- Without repetitions, what stands behind an entry of the last part of a list is in the last
part too. -/
theorem mem_of_pair_sublist_append (h : (xs ++ ys).Nodup) (hxy : [x, y].Sublist (xs ++ ys))
    (hx : x ∈ ys) : y ∈ ys := by
  obtain ⟨front, back, heq, hfront, hback⟩ := List.sublist_append_iff.mp hxy
  cases front with
  | nil =>
    rw [List.nil_append] at heq
    subst heq
    exact hback.subset (by simp)
  | cons z front =>
    obtain rfl : x = z := (List.cons.inj heq).1
    have hmem : x ∈ xs := hfront.subset List.mem_cons_self
    exact absurd rfl ((List.nodup_append.mp h).2.2 x hmem x hx)

/-- Without repetitions, two entries stand in one order only. -/
theorem not_pair_sublist (h : xs.Nodup) (hxy : [x, y].Sublist xs) : ¬[y, x].Sublist xs := by
  intro hyx
  obtain ⟨before, after, rfl⟩ := List.append_of_mem (hxy.subset List.mem_cons_self)
  have hx : x ∉ after := (List.nodup_cons.mp (List.nodup_append.mp h).2.1).1
  have hy : y ∈ x :: after := mem_of_pair_sublist_append h hxy List.mem_cons_self
  rw [List.append_cons] at h hyx
  rcases List.mem_cons.mp hy with rfl | hy
  · exact List.nodup_iff_sublist.mp h y hyx
  · exact hx (mem_of_pair_sublist_append h hyx hy)

end Pairs

end Repetition
end Activation
