import Activation.Order.Walk
import Activation.Proofs.Repetition
import Activation.Proofs.Tables

/-!
# What the table of prerequisites says

`Prerequisites.ofHints` makes a table of the hints of the units, in two passes:
what a unit says it follows is read off directly, and what it says it precedes is
noted under the other unit.  Here the table is read back.

* `of_note`: noting an entry changes the list of one unit, and never repeats an
  entry there.
* `of_predecessors`: under each unit, the units that say they precede it, once
  each, in the order of the list.
* `getElem?_ofHints`, `of_ofHints`: the whole list of a unit, with its order.
* `mem_of_ofHints`: the relation that the table stands for.  A unit is listed
  under another exactly if both are to be arranged and one of them declares it.
* `ofHints_lists`: all of this for units of which none is given twice (`Lists`).
-/

namespace Activation

namespace Prerequisites

/-! ## Noting entries -/

@[simp] theorem of_empty (unit : UnitName) : of ∅ unit = [] := by
  simp [of]

theorem of_insert (table : Prerequisites) (unit : UnitName) (entries : List UnitName)
    (other : UnitName) :
    of (table.insert unit entries) other = if unit = other then entries else table.of other := by
  rw [of, Std.ExtTreeMap.getElem?_insert]
  by_cases he : unit = other
  · simp [he]
  · simp [he, of]

theorem note_eq (table : Prerequisites) (unit entry : UnitName) :
    table.note unit entry =
      if (table.of unit).contains entry then table
      else table.insert unit (table.of unit ++ [entry]) := rfl

/-- **Noting an entry** under a unit adds it at the end there, unless it is listed
already, and leaves the lists of all other units alone. -/
theorem of_note (table : Prerequisites) (unit entry other : UnitName) :
    (table.note unit entry).of other =
      if unit = other then
        if (table.of unit).contains entry then table.of unit else table.of unit ++ [entry]
      else table.of other := by
  rw [note_eq]
  by_cases hm : (table.of unit).contains entry = true
  · rw [if_pos hm, if_pos hm]
    by_cases he : unit = other
    · rw [if_pos he, he]
    · rw [if_neg he]
  · rw [if_neg hm, if_neg hm, of_insert]

/-- Noting one entry under several units adds it to the lists of these units. -/
theorem of_foldl_note (table : Prerequisites) (units : List UnitName) (entry other : UnitName) :
    (units.foldl (fun table unit => table.note unit entry) table).of other =
      if other ∈ units then
        if (table.of other).contains entry then table.of other else table.of other ++ [entry]
      else table.of other := by
  induction units generalizing table with
  | nil => simp
  | cons unit units ih =>
    rw [List.foldl_cons, ih, of_note]
    by_cases he : unit = other
    · subst he
      by_cases hm : entry ∈ table.of unit <;> simp [hm]
    · have hne : ¬other = unit := fun h => he h.symm
      simp [he, hne]

/-- **Under each unit, those that say they precede it**, once each, in the order of
the list. -/
theorem of_predecessors (units : List UnitName) (hints : UnitName → Hints) (unit : UnitName) :
    (predecessors units hints).of unit =
      (units.filter fun other => (hints other).before.contains unit).eraseDups := by
  induction units using List.reverseRecOn with
  | nil => simp [predecessors]
  | append_singleton units other ih =>
    have hstep : predecessors (units ++ [other]) hints =
        (hints other).before.foldl (fun table unit => table.note unit other)
          (predecessors units hints) := by
      rw [predecessors, List.foldl_append]
      rfl
    rw [hstep, of_foldl_note, ih, List.filter_append]
    by_cases hb : unit ∈ (hints other).before
    · have hone : [other].filter (fun other => (hints other).before.contains unit) = [other] := by
        simp [hb]
      rw [if_pos hb, hone, Repetition.eraseDups_concat]
      simp
    · have hnone : [other].filter (fun other => (hints other).before.contains unit) = [] := by
        simp [hb]
      rw [if_neg hb, hnone, List.append_nil]

/-! ## The whole table -/

/-- The table has a list for every unit to be arranged and for no other. -/
theorem getElem?_ofHints (units : List UnitName) (hints : UnitName → Hints) (unit : UnitName) :
    (ofHints units hints)[unit]? =
      if unit ∈ units then
        some ((hints unit).after.filter units.contains ++
          (units.filter fun other => (hints other).before.contains unit).eraseDups).eraseDups
      else none := by
  have hknown : (Std.ExtTreeSet.ofList units).contains = units.contains :=
    funext fun other => Std.ExtTreeSet.contains_ofList
  have hpred := of_predecessors units hints unit
  rw [of] at hpred
  rw [ofHints, Tables.getElem?_ofList_map, hpred, hknown]

/-- **The list of a unit**: the known units that it says it follows, in that order,
and then those that say they precede it, once each. -/
theorem of_ofHints (units : List UnitName) (hints : UnitName → Hints) (unit : UnitName) :
    (ofHints units hints).of unit =
      if unit ∈ units then
        ((hints unit).after.filter units.contains ++
          (units.filter fun other => (hints other).before.contains unit).eraseDups).eraseDups
      else [] := by
  rw [of, getElem?_ofHints]
  split
  · rfl
  · rfl

/-- **The relation that the table stands for.**  A unit is listed under another
exactly if both are to be arranged and one of them declares it. -/
theorem mem_of_ofHints {units : List UnitName} {hints : UnitName → Hints}
    {unit other : UnitName} :
    other ∈ (ofHints units hints).of unit ↔
      unit ∈ units ∧ other ∈ units ∧
        (other ∈ (hints unit).after ∨ unit ∈ (hints other).before) := by
  rw [of_ofHints]
  split
  · next hm =>
    rw [List.mem_eraseDups, List.mem_append, List.mem_eraseDups, List.mem_filter, List.mem_filter]
    simp only [List.contains_iff_mem]
    constructor
    · rintro (⟨ha, hk⟩ | ⟨hk, hb⟩)
      · exact ⟨hm, hk, Or.inl ha⟩
      · exact ⟨hm, hk, Or.inr hb⟩
    · rintro ⟨-, hk, ha | hb⟩
      · exact Or.inl ⟨ha, hk⟩
      · exact Or.inr ⟨hk, hb⟩
  · next hm =>
    constructor
    · intro h
      exact absurd h List.not_mem_nil
    · intro h
      exact absurd h.1 hm

/-- The table depends on the hints of the units to be arranged alone. -/
theorem ofHints_congr {units : List UnitName} {hints hints' : UnitName → Hints}
    (h : ∀ unit ∈ units, hints unit = hints' unit) :
    ofHints units hints = ofHints units hints' := by
  have hpred : predecessors units hints = predecessors units hints' := by
    refine List.foldl_ext _ _ _ fun table unit hu => ?_
    rw [h unit hu]
  rw [ofHints, ofHints, hpred]
  congr 1
  refine List.map_congr_left fun unit hu => ?_
  rw [h unit hu]

/-! ## The lists of different units -/

/-- **How the prerequisites of a unit are listed**, given the units to be arranged in the order
of their precedence. -/
structure Lists (units : List UnitName) (hints : UnitName → Hints) (unit : UnitName)
    (entries : List UnitName) : Prop where
  /-- No unit is listed twice. -/
  nodup : entries.Nodup
  /-- The listed units are the known ones that must precede the unit, as it declares itself or as
  they declare. -/
  mem_iff : ∀ other, other ∈ entries ↔
    other ∈ units ∧ (other ∈ (hints unit).after ∨ unit ∈ (hints other).before)
  /-- Those that the unit declares itself come first, each where it declares it first, and the
  others follow in the order of precedence. -/
  order : ∃ own further, entries = own ++ further ∧
    (∀ other, other ∈ own ↔ other ∈ units ∧ other ∈ (hints unit).after) ∧
    own.Pairwise (fun first second =>
      (hints unit).after.idxOf first < (hints unit).after.idxOf second) ∧
    further.Sublist units

/-- What a unit declares itself, once each, and then those that declare it and are not among
them. -/
theorem entries_eq {units : List UnitName} (h : units.Nodup) (hints : UnitName → Hints)
    (unit : UnitName) :
    ((hints unit).after.filter units.contains ++
        (units.filter fun other => (hints other).before.contains unit).eraseDups).eraseDups =
      ((hints unit).after.filter units.contains).eraseDups ++
        (units.filter fun other => (hints other).before.contains unit).removeAll
          ((hints unit).after.filter units.contains) := by
  have hdeclaring : (units.filter fun other => (hints other).before.contains unit).Nodup :=
    h.filter _
  have hfurther : ((units.filter fun other => (hints other).before.contains unit).removeAll
      ((hints unit).after.filter units.contains)).Nodup :=
    hdeclaring.filter _
  rw [Repetition.eraseDups_eq_self hdeclaring, List.eraseDups_append,
    Repetition.eraseDups_eq_self hfurther]

/-- **The lists of prerequisites.**  If no unit is given twice, the table has a list for each
of them and for no other unit, and in each list the prerequisites stand once, in their
order. -/
theorem ofHints_lists {units : List UnitName} (h : units.Nodup) (hints : UnitName → Hints)
    (unit : UnitName) :
    (unit ∈ ofHints units hints ↔ unit ∈ units) ∧
    ∀ entries, (ofHints units hints)[unit]? = some entries → Lists units hints unit entries := by
  constructor
  · rw [Std.ExtTreeMap.mem_iff_isSome_getElem?, getElem?_ofHints]
    split
    · next hm => simp [hm]
    · next hm => simp [hm]
  · intro entries hentries
    have hof : (ofHints units hints).of unit = entries := by
      rw [of, hentries]
      rfl
    have hm : unit ∈ units := by
      by_contra hm
      rw [getElem?_ofHints, if_neg hm] at hentries
      exact nomatch hentries
    have hlist := of_ofHints units hints unit
    rw [hof, if_pos hm] at hlist
    refine ⟨?_, fun other => ?_, ?_⟩
    · rw [hlist]
      exact Repetition.nodup_eraseDups _
    · rw [← hof, mem_of_ofHints]
      exact and_iff_right hm
    · refine ⟨_, _, hlist.trans (entries_eq h hints unit), fun other => ?_, ?_, ?_⟩
      · rw [List.mem_eraseDups, List.mem_filter, List.contains_iff_mem, and_comm]
      · -- what is left out is no reason to change the order
        rw [Repetition.eraseDups_filter]
        exact (Repetition.pairwise_idxOf_eraseDups _).filter _
      · exact List.filter_sublist.trans List.filter_sublist

/-- The hints of a shop: the app follows the database, which it names twice, and a unit that is
not there; the cache precedes the app, and the database precedes both. -/
def shopHints : UnitName → Hints
  | "app" => { after := ["db", "mail", "db"] }
  | "cache" => { before := ["app"] }
  | "db" => { before := ["cache", "app"] }
  | _ => {}

/-- The list of the app: what it declares itself, although the cache takes precedence, and then
the cache. -/
theorem ofHints_lists_shop :
    ["app", "cache", "db"].Nodup ∧
    (ofHints ["app", "cache", "db"] shopHints)["app"]? = some ["db", "cache"] ∧
    ("app" ∈ ofHints ["app", "cache", "db"] shopHints ↔ "app" ∈ ["app", "cache", "db"]) ∧
    Lists ["app", "cache", "db"] shopHints "app" ["db", "cache"] := by
  have hnodup : ["app", "cache", "db"].Nodup := by decide
  have hlist : (ofHints ["app", "cache", "db"] shopHints)["app"]? = some ["db", "cache"] := by
    rw [getElem?_ofHints]
    decide
  obtain ⟨hmem, hlists⟩ := ofHints_lists hnodup shopHints "app"
  exact ⟨hnodup, hlist, hmem, hlists _ hlist⟩

end Prerequisites
end Activation
