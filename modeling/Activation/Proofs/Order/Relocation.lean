import Activation.Order
import Activation.Proofs.Order.Prerequisites
import Activation.Proofs.Text.Written

/-!
# Hints may stand in the index instead

What a definition says about the place of its unit can be taken out of it and written into
the metadata index: the precedence in decimal, the units before and after with commas
between them.  The index is text, so this has to be read back, and it leaves out repeated
names; and it is flat, so the entries of dotted units must not get into each other's way.
Neither can be seen in the order.

* `Metadata.fullKey_inj`: a full key belongs to one unit and to one key.
* `Metadata.get?_extend_hintEntries`: what the index shows once the hints of a catalog are
  written into it.
* `Hints.read_relocated`: the hints that are read then are the old ones, each name once.
* `Order.ofHinted_distinct`: repeated names do not matter for the order.
* `Order.arrange_relocated`: units are arranged alike, wherever their hints stand.
-/

namespace Activation

/-! ## Hints as entries of the index -/

namespace Definition

/-- The names of a list with commas between them; nothing if there are none. -/
def joined? (names : List UnitName) : Option String :=
  if names.isEmpty then none else some (",".intercalate names)

/-- What a definition says under a key of the index about the place of its unit. -/
def hintText? (key : String) (definition : Definition) : Option String :=
  if key = Metadata.orderKey then definition.order.map fun order => Text.writeInt order.toInt
  else if key = Metadata.beforeKey then joined? definition.before
  else if key = Metadata.afterKey then joined? definition.after
  else none

/-- A definition that says nothing about the place of its unit. -/
def withoutHints (definition : Definition) : Definition :=
  { definition with order := none, before := [], after := [] }

end Definition

/-- The keys of the index for the place of a unit. -/
def Metadata.hintKeys : List String := [orderKey, beforeKey, afterKey]

namespace Catalog

/-- The entries of the index that say what the definitions say about the places of their
units. -/
def hintEntries (catalog : Catalog) : List (String × String) :=
  catalog.toList.flatMap fun entry => Metadata.hintKeys.filterMap fun key =>
    (entry.2.hintText? key).map fun text => (Metadata.fullKey entry.1 key, text)

/-- A catalog whose definitions say nothing about the places of their units. -/
def withoutHints (catalog : Catalog) : Catalog :=
  catalog.map fun _ definition => definition.withoutHints

end Catalog

namespace Metadata

/-- **A full key belongs to one unit and to one key**, whatever dots are in the names of
units, since there are none in keys. -/
theorem fullKey_inj {unit unit' : UnitName} {key key' : String} (hkey : '.' ∉ key.toList)
    (hkey' : '.' ∉ key'.toList) (h : fullKey unit key = fullKey unit' key') :
    unit = unit' ∧ key = key' := by
  have hlist : unit.toList ++ '.' :: key.toList = unit'.toList ++ '.' :: key'.toList := by
    have hs := congrArg String.toList h
    simpa [fullKey] using hs
  rw [List.append_eq_append_iff] at hlist
  -- one name goes on where the other ends, and then the dot after it is in a key
  rcases hlist with ⟨rest, hu, hk⟩ | ⟨rest, hu, hk⟩
  · cases rest with
    | nil =>
      rw [List.append_nil, String.toList_inj] at hu
      rw [List.nil_append, List.cons_inj_right, String.toList_inj] at hk
      exact ⟨hu.symm, hk⟩
    | cons c rest =>
      refine absurd ?_ hkey
      rw [(List.cons.inj hk).2]
      exact List.mem_append_right rest List.mem_cons_self
  · cases rest with
    | nil =>
      rw [List.append_nil, String.toList_inj] at hu
      rw [List.nil_append, List.cons_inj_right, String.toList_inj] at hk
      exact ⟨hu, hk.symm⟩
    | cons c rest =>
      refine absurd ?_ hkey'
      rw [(List.cons.inj hk).2]
      exact List.mem_append_right rest List.mem_cons_self

theorem notMem_dot_of_mem_hintKeys {key : String} (h : key ∈ hintKeys) : '.' ∉ key.toList := by
  revert key
  decide

variable (index : Metadata) (catalog : Catalog) (unit : UnitName) {key : String}

theorem mem_hintEntries_iff (hkey : key ∈ hintKeys) (text : String) :
    (fullKey unit key, text) ∈ catalog.hintEntries ↔
      catalog[unit]?.bind (Definition.hintText? key) = some text := by
  rw [Catalog.hintEntries, List.mem_flatMap]
  constructor
  · rintro ⟨⟨unit', definition⟩, hentry, hwritten⟩
    obtain ⟨key', hkey', hwritten⟩ := List.mem_filterMap.mp hwritten
    obtain ⟨text', htext, heq⟩ := Option.map_eq_some_iff.mp hwritten
    obtain ⟨hfull, rfl⟩ := Prod.ext_iff.mp heq
    obtain ⟨rfl, rfl⟩ := fullKey_inj (notMem_dot_of_mem_hintKeys hkey')
      (notMem_dot_of_mem_hintKeys hkey) hfull
    rw [Std.ExtTreeMap.mem_toList_iff_getElem?_eq_some] at hentry
    rw [hentry, Option.bind_some]
    exact htext
  · intro h
    obtain ⟨definition, hdefinition, htext⟩ := Option.bind_eq_some_iff.mp h
    refine ⟨(unit, definition), Std.ExtTreeMap.mem_toList_iff_getElem?_eq_some.mpr hdefinition, ?_⟩
    exact List.mem_filterMap.mpr ⟨key, hkey, by rw [htext, Option.map_some]⟩

/-- **An index into which the hints of a catalog are written** shows these, and otherwise
what it showed before. -/
theorem get?_extend_hintEntries (hkey : key ∈ hintKeys) :
    (index.extend catalog.hintEntries).get? unit key =
      (catalog[unit]?.bind (Definition.hintText? key)).or (index.get? unit key) :=
  Tables.getElem?_insertMany_of_mem_iff index.entries (mem_hintEntries_iff catalog unit hkey)

end Metadata

/-! ## The hints that are read -/

namespace Hints

/-- Hints in which no name is repeated. -/
def distinct (hints : Hints) : Hints where
  order := hints.order
  before := hints.before.eraseDups
  after := hints.after.eraseDups

section Read

variable {index : Metadata} {catalog : Catalog} {unit : UnitName}

/-- The precedence is read back from the index. -/
theorem readOrder_relocated (catalog : Catalog)
    (hfree : index.get? unit Metadata.orderKey = none) :
    readOrder (index.extend catalog.hintEntries) catalog.withoutHints unit =
      readOrder index catalog unit := by
  have hget := Metadata.get?_extend_hintEntries index catalog unit
    (show Metadata.orderKey ∈ Metadata.hintKeys by decide)
  rw [hfree, Option.or_none] at hget
  have hgone : catalog.withoutHints[unit]?.bind Definition.order = none := by
    rw [Catalog.withoutHints, Std.ExtTreeMap.getElem?_map]
    cases catalog[unit]? with
    | none => rfl
    | some definition => rfl
  rw [readOrder, readOrder, hgone, Metadata.integer?, Metadata.integer?, hget, hfree]
  cases catalog[unit]? with
  | none => rfl
  | some definition =>
    rw [Option.bind_some, Option.bind_some, Definition.hintText?, if_pos rfl]
    cases definition.order with
    | none => rfl
    | some order =>
      rw [Option.map_some]
      dsimp only
      rw [Text.readInt32?_trim_writeInt]
      rfl

/-- A list of units is read back from the index, each unit once. -/
theorem readUnits_relocated (declared : Definition → List UnitName) {key : String}
    (hkey : key ∈ Metadata.hintKeys)
    (hgone : ∀ definition : Definition, declared definition.withoutHints = [])
    (htext : ∀ definition, Definition.hintText? key definition =
      Definition.joined? (declared definition))
    (hfree : index.get? unit key = none)
    (hitems : ∀ definition ∈ catalog[unit]?, ∀ name ∈ declared definition, Text.IsItem name) :
    readUnits (index.extend catalog.hintEntries) catalog.withoutHints unit declared key =
      (readUnits index catalog unit declared key).eraseDups := by
  have hget := Metadata.get?_extend_hintEntries index catalog unit hkey
  rw [hfree, Option.or_none] at hget
  have hnone : (catalog.withoutHints[unit]?.map declared).getD [] = [] := by
    rw [Catalog.withoutHints, Std.ExtTreeMap.getElem?_map, Option.map_map]
    cases catalog[unit]? with
    | none => rfl
    | some definition => exact hgone definition
  rw [readUnits, readUnits, hnone, Metadata.items?, Metadata.items?, hget, hfree]
  cases hd : catalog[unit]? with
  | none => rfl
  | some definition =>
    have hnames := hitems definition hd
    rw [Option.bind_some, htext, Definition.joined?, Option.map_some, Option.getD_some]
    cases hn : declared definition with
    | nil => rfl
    | cons name names =>
      rw [← hn, if_neg (by simp [hn]), Option.map_some, Text.items_intercalate hnames]
      rw [hn]
      rfl

/-- **The hints that are read from the index** are those of the definition, each name
once. -/
theorem read_relocated (hfree : ∀ key ∈ Metadata.hintKeys, index.get? unit key = none)
    (hitems : ∀ definition ∈ catalog[unit]?, ∀ name ∈ definition.before ++ definition.after,
      Text.IsItem name) :
    read (index.extend catalog.hintEntries) catalog.withoutHints unit =
      (read index catalog unit).map distinct := by
  have horder := readOrder_relocated catalog (hfree _ (by decide))
  have hbefore := readUnits_relocated Definition.before
    (show Metadata.beforeKey ∈ Metadata.hintKeys by decide) (fun _ => rfl) (fun _ => rfl)
    (hfree _ (by decide)) fun definition hd name hn =>
      hitems definition hd name (List.mem_append_left _ hn)
  have hafter := readUnits_relocated Definition.after
    (show Metadata.afterKey ∈ Metadata.hintKeys by decide) (fun _ => rfl) (fun _ => rfl)
    (hfree _ (by decide)) fun definition hd name hn =>
      hitems definition hd name (List.mem_append_right _ hn)
  rw [read, read, horder, hbefore, hafter]
  cases readOrder index catalog unit with
  | error problem => rfl
  | ok order => rfl

/-- What is read of all units, if what is read of each of them is changed. -/
theorem readAll_map {index' : Metadata} {catalog' : Catalog} {f : Hints → Hints}
    {units : List UnitName}
    (h : ∀ unit ∈ units, read index' catalog' unit = (read index catalog unit).map f) :
    readAll index' catalog' units =
      (readAll index catalog units).map fun hinted =>
        hinted.map fun entry => (entry.1, f entry.2) := by
  induction units with
  | nil => rfl
  | cons unit units ih =>
    rw [List.forall_mem_cons] at h
    rw [readAll, readAll, h.1, ih h.2]
    cases read index catalog unit with
    | error problem => rfl
    | ok hints =>
      cases readAll index catalog units with
      | error problem => rfl
      | ok hinted => rfl

end Read

end Hints

/-! ## Repeated names -/

/-- Repeated names in the hints make no other prerequisites. -/
theorem Prerequisites.ofHints_distinct (units : List UnitName) (hints : UnitName → Hints) :
    ofHints units (fun unit => (hints unit).distinct) = ofHints units hints := by
  have hdeclared (unit : UnitName) :
      ((predecessors units fun unit => (hints unit).distinct)[unit]?).getD [] =
        ((predecessors units hints)[unit]?).getD [] := by
    have hleft := of_predecessors units (fun unit => (hints unit).distinct) unit
    have hright := of_predecessors units hints unit
    have hsame : (units.filter fun other => (hints other).distinct.before.contains unit) =
        units.filter fun other => (hints other).before.contains unit := by
      refine List.filter_congr fun other _ => ?_
      rw [Hints.distinct, List.contains_eq_mem, List.contains_eq_mem]
      exact decide_eq_decide.mpr List.mem_eraseDups
    rw [of] at hleft hright
    rw [hleft, hright, hsame]
  rw [ofHints, ofHints]
  congr 1
  refine List.map_congr_left fun unit _ => congrArg (Prod.mk unit) ?_
  rw [hdeclared, Hints.distinct, ← Repetition.eraseDups_filter,
    Repetition.eraseDups_eraseDups_append]

namespace Order

/-- **Repeated names in the hints** do not matter for the order. -/
theorem ofHinted_distinct (hinted : List (UnitName × Hints)) :
    ofHinted (hinted.map fun entry => (entry.1, entry.2.distinct)) = ofHinted hinted := by
  have hsorted : byPrecedence (hinted.map fun entry => (entry.1, entry.2.distinct)) =
      (byPrecedence hinted).map fun entry => (entry.1, entry.2.distinct) := by
    rw [byPrecedence, byPrecedence, List.map_mergeSort]
    intro first _ second _
    rfl
  have hunits : ((byPrecedence hinted).map fun entry => (entry.1, entry.2.distinct)).map
      Prod.fst = (byPrecedence hinted).map Prod.fst := by
    rw [List.map_map]
    rfl
  have hhints : (fun unit : UnitName => ((Std.ExtTreeMap.ofList (hinted.map fun entry =>
      (entry.1, entry.2.distinct)))[unit]?).getD ({} : Hints)) =
        fun unit => Hints.distinct (((Std.ExtTreeMap.ofList hinted)[unit]?).getD {}) := by
    funext unit
    rw [Tables.getElem?_ofList_map_snd]
    cases (Std.ExtTreeMap.ofList hinted)[unit]? with
    | none => rfl
    | some hints => rfl
  rw [ofHinted, ofHinted, hsorted, hunits, hhints, Prerequisites.ofHints_distinct]

/-- **Units are arranged alike, wherever their hints stand.**  If no hints of the accepted
units are in the index, and the names that their definitions list can stand between commas,
then these hints may be taken out of all definitions and written into the index: the
precedence in decimal, the names with commas between them.  Units are then arranged in the
same order, or fail to be with the same error. -/
theorem arrange_relocated (index : Metadata) (catalog : Catalog) (accepted : List UnitName)
    (free : ∀ unit ∈ accepted, ∀ key ∈ Metadata.hintKeys, index.get? unit key = none)
    (items : ∀ unit ∈ accepted, ∀ definition ∈ catalog[unit]?,
      ∀ name ∈ definition.before ++ definition.after, Text.IsItem name) :
    arrange (index.extend catalog.hintEntries) catalog.withoutHints accepted =
      arrange index catalog accepted := by
  have hread := Hints.readAll_map fun unit hu =>
    Hints.read_relocated (free unit hu) (items unit hu)
  rw [arrange, arrange, hread]
  cases Hints.readAll index catalog accepted with
  | error problem => rfl
  | ok hinted =>
    rw [Except.map]
    dsimp only
    rw [ofHinted_distinct]

/-- Units of which one is named as a key of the other, with the least and the greatest
precedence and with names repeated. -/
def dottedCatalog : Catalog :=
  .ofDefinitions [
    { name := "app", order := some (-2147483648),
      after := ["cache", "app.AutoConfigureAfter", "cache"] },
    { name := "app.AutoConfigureAfter", before := ["app", "app", "db"], after := ["cache"] },
    { name := "cache", order := some 2147483647 }]

/-- An index that says something else about these units, and hints for another one. -/
def dottedIndex : Metadata :=
  .ofPairs [("app.ConditionalOnClass", "Pool"), ("cache", ""), ("db.AutoConfigureOrder", "high")]

/-- The hints of three units, in the definitions or in the index. -/
theorem arrange_relocated_dotted :
    (∀ unit ∈ ["app", "app.AutoConfigureAfter", "cache"], ∀ key ∈ Metadata.hintKeys,
      dottedIndex.get? unit key = none) ∧
    (∀ unit ∈ ["app", "app.AutoConfigureAfter", "cache"],
      ∀ definition ∈ dottedCatalog[unit]?, ∀ name ∈ definition.before ++ definition.after,
        Text.IsItem name) ∧
    arrange (dottedIndex.extend dottedCatalog.hintEntries) dottedCatalog.withoutHints
        ["app", "app.AutoConfigureAfter", "cache"] =
      arrange dottedIndex dottedCatalog ["app", "app.AutoConfigureAfter", "cache"] := by
  have hfree : ∀ unit ∈ ["app", "app.AutoConfigureAfter", "cache"], ∀ key ∈ Metadata.hintKeys,
      dottedIndex.get? unit key = none := by
    decide
  have hitems : ∀ unit ∈ ["app", "app.AutoConfigureAfter", "cache"],
      ∀ definition ∈ dottedCatalog[unit]?, ∀ name ∈ definition.before ++ definition.after,
        Text.IsItem name := by
    decide
  exact ⟨hfree, hitems, arrange_relocated dottedIndex dottedCatalog _ hfree hitems⟩

end Order
end Activation
