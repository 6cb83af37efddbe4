import Std.Data.ExtTreeMap
import Activation.UnitName
import Mathlib.Data.List.Induction
import Mathlib.Data.List.Nodup

/-!
# Tables made from lists

A table of names is made from a list of entries, and of two entries under one name
the later counts.  So a table reads as its list where that is no matter: if what
belongs to a name is a function of the name (`getElem?_ofList_map`), or if no name
is listed twice (`getElem?_ofList_eq_some_iff`).

A list may be changed before a table is made from it, or the table afterwards: what
belongs to the names (`getElem?_ofList_map_snd`), and which names are kept
(`filter_ofList`).  Tables that show the same are equal (`ext_contains_getD`).
-/

namespace Activation
namespace Tables

variable {β : Type}

/-- A table with further entries for units reads as these, or as it did before. -/
theorem getElem?_insertMany_map (table : Std.ExtTreeMap UnitName β) (units : List UnitName)
    (f : UnitName → β) (unit : UnitName) :
    (table.insertMany (units.map fun other => (other, f other)))[unit]? =
      if unit ∈ units then some (f unit) else table[unit]? := by
  induction units generalizing table with
  | nil => simp
  | cons other units ih =>
    rw [List.map_cons, Std.ExtTreeMap.insertMany_cons, ih, Std.ExtTreeMap.getElem?_insert]
    by_cases hm : unit ∈ units
    · simp [hm]
    · by_cases he : other = unit
      · simp [he]
      · have hne : ¬unit = other := fun h => he h.symm
        simp [hm, he, hne]

/-- A table of units and what belongs to them reads as that, also if units are
repeated. -/
theorem getElem?_ofList_map (units : List UnitName) (f : UnitName → β) (unit : UnitName) :
    (Std.ExtTreeMap.ofList (units.map fun other => (other, f other)))[unit]? =
      if unit ∈ units then some (f unit) else none := by
  rw [Std.ExtTreeMap.ofList_eq_insertMany_empty, getElem?_insertMany_map,
    Std.ExtTreeMap.getElem?_empty]

/-- A list in which no name is repeated can be read back from its table. -/
theorem getElem?_ofList_eq_some_iff {entries : List (UnitName × β)}
    (h : (entries.map Prod.fst).Nodup) {unit : UnitName} {b : β} :
    (Std.ExtTreeMap.ofList entries)[unit]? = some b ↔ (unit, b) ∈ entries := by
  have hpair : entries.Pairwise fun first second => ¬compare first.1 second.1 = .eq := by
    refine (List.pairwise_map.mp h).imp fun hne hc => ?_
    exact hne (Std.LawfulEqCmp.compare_eq_iff_eq.mp hc)
  constructor
  · intro hs
    have hm : unit ∈ Std.ExtTreeMap.ofList entries := by
      rw [Std.ExtTreeMap.mem_iff_isSome_getElem?, hs]
      rfl
    rw [Std.ExtTreeMap.mem_ofList, List.contains_iff_mem, List.mem_map] at hm
    obtain ⟨⟨unit', b'⟩, he, rfl⟩ := hm
    rw [Std.ExtTreeMap.getElem?_ofList_of_mem Std.ReflCmp.compare_self hpair he] at hs
    cases hs
    exact he
  · exact Std.ExtTreeMap.getElem?_ofList_of_mem Std.ReflCmp.compare_self hpair

/-- **A table with further entries** shows under a name what these say of it, as long as
they say one thing, and otherwise what it showed before. -/
theorem getElem?_insertMany_of_mem_iff (table : Std.ExtTreeMap UnitName β)
    {entries : List (UnitName × β)} {unit : UnitName} {found : Option β}
    (h : ∀ b, (unit, b) ∈ entries ↔ found = some b) :
    (table.insertMany entries)[unit]? = found.or table[unit]? := by
  have hfound : (entries.findSomeRev? fun entry =>
      if compare entry.1 unit = .eq then some entry.2 else none) = found := by
    rw [List.findSomeRev?_eq_findSome?_reverse]
    cases hs : entries.reverse.findSome? fun entry =>
        if compare entry.1 unit = .eq then some entry.2 else none with
    | some b =>
      obtain ⟨entry, hentry, heq⟩ := List.exists_of_findSome?_eq_some hs
      obtain ⟨hc, hb⟩ := Option.ite_none_right_eq_some.mp heq
      rw [List.mem_reverse, ← Prod.eta entry, Std.LawfulEqCmp.compare_eq_iff_eq.mp hc,
        Option.some.inj hb] at hentry
      exact ((h b).mp hentry).symm
    | none =>
      refine (Option.eq_none_iff_forall_ne_some.mpr fun b hb => ?_).symm
      have hnone := List.findSome?_eq_none_iff.mp hs (unit, b)
        (List.mem_reverse.mpr ((h b).mpr hb))
      simp at hnone
  rw [Std.ExtTreeMap.getElem?_insertMany_list, hfound]

theorem ofList_concat (entries : List (UnitName × β)) (entry : UnitName × β) :
    Std.ExtTreeMap.ofList (entries ++ [entry]) =
      (Std.ExtTreeMap.ofList entries).insert entry.1 entry.2 := by
  rw [Std.ExtTreeMap.ofList_eq_insertMany_empty, Std.ExtTreeMap.insertMany_append,
    Std.ExtTreeMap.insertMany_list_singleton, ← Std.ExtTreeMap.ofList_eq_insertMany_empty]

/-- What belongs to the names may be changed in the entries or in the table. -/
theorem getElem?_ofList_map_snd {γ : Type} (f : β → γ) (entries : List (UnitName × β))
    (unit : UnitName) :
    (Std.ExtTreeMap.ofList (entries.map fun entry => (entry.1, f entry.2)))[unit]? =
      (Std.ExtTreeMap.ofList entries)[unit]?.map f := by
  induction entries using List.reverseRecOn with
  | nil => rfl
  | append_singleton entries entry ih =>
    rw [List.map_append, List.map_singleton, ofList_concat, ofList_concat,
      Std.ExtTreeMap.getElem?_insert, Std.ExtTreeMap.getElem?_insert, ih]
    by_cases hc : compare entry.1 unit = .eq
    · rw [if_pos hc, if_pos hc, Option.map_some]
    · rw [if_neg hc, if_neg hc]

/-- A table reads as before under the names that are kept of it. -/
theorem getElem?_filter_name (table : Std.ExtTreeMap UnitName β) (p : UnitName → Bool)
    (unit : UnitName) :
    (table.filter fun name _ => p name)[unit]? = if p unit then table[unit]? else none := by
  rw [Std.ExtTreeMap.getElem?_filter']
  cases p unit <;> cases table[unit]? <;> rfl

/-- **Names may be left out** of the entries or of the table. -/
theorem filter_ofList (entries : List (UnitName × β)) (p : UnitName → Bool) :
    ((Std.ExtTreeMap.ofList entries).filter fun name _ => p name) =
      Std.ExtTreeMap.ofList (entries.filter fun entry => p entry.1) := by
  induction entries using List.reverseRecOn with
  | nil => exact Std.ExtTreeMap.ext_getElem? fun unit => by rw [getElem?_filter_name]; simp
  | append_singleton entries entry ih =>
    refine Std.ExtTreeMap.ext_getElem? fun unit => ?_
    rw [getElem?_filter_name, ofList_concat, Std.ExtTreeMap.getElem?_insert, List.filter_append,
      List.filter_singleton]
    cases hp : p entry.1 with
    | true =>
      rw [cond_true, ofList_concat, Std.ExtTreeMap.getElem?_insert, ← ih, getElem?_filter_name]
      by_cases hc : compare entry.1 unit = .eq
      · rw [if_pos hc, if_pos hc, ← Std.LawfulEqCmp.compare_eq_iff_eq.mp hc, if_pos hp]
      · rw [if_neg hc, if_neg hc]
    | false =>
      rw [cond_false, List.append_nil, ← ih, getElem?_filter_name]
      by_cases hc : compare entry.1 unit = .eq
      · rw [← Std.LawfulEqCmp.compare_eq_iff_eq.mp hc, hp, if_neg Bool.false_ne_true,
          if_neg Bool.false_ne_true]
      · rw [if_neg hc]

/-- A table is made again from the list of its entries. -/
theorem ofList_toList (table : Std.ExtTreeMap UnitName β) :
    Std.ExtTreeMap.ofList table.toList = table := by
  have hnodup : (table.toList.map Prod.fst).Nodup := by
    rw [Std.ExtTreeMap.map_fst_toList_eq_keys]
    exact Std.ExtTreeMap.nodup_keys
  refine Std.ExtTreeMap.ext_getElem? fun unit => Option.ext fun b => ?_
  rw [getElem?_ofList_eq_some_iff hnodup, Std.ExtTreeMap.mem_toList_iff_getElem?_eq_some]

/-- A table holds what it shows under its names. -/
theorem getElem?_eq_ite (table : Std.ExtTreeMap UnitName β) (fallback : β) (unit : UnitName) :
    table[unit]? = if table.contains unit then some (table.getD unit fallback) else none := by
  rw [Std.ExtTreeMap.contains_eq_isSome_getElem?, Std.ExtTreeMap.getD_eq_getD_getElem?]
  cases table[unit]? <;> rfl

/-- Tables are equal that have the same names and the same under each of them. -/
theorem ext_contains_getD {table other : Std.ExtTreeMap UnitName β} (fallback : β)
    (hnames : ∀ unit, table.contains unit = other.contains unit)
    (hvalues : ∀ unit, table.getD unit fallback = other.getD unit fallback) : table = other := by
  refine Std.ExtTreeMap.ext_getElem? fun unit => ?_
  rw [getElem?_eq_ite table fallback, getElem?_eq_ite other fallback, hnames, hvalues]

end Tables
end Activation
