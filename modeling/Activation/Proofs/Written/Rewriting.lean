import Activation.Data
import Mathlib.Data.List.Nodup

/-!
# Written forms of the same value

What is written down carries all of its fields.  It may be written in other ways
without a change of meaning: a field may be left out if it holds its default, fields
may be added that no reader knows, and what a field holds may itself be written in
another way.  A `Format` says how the values of a type are written, and which data are
other ways to write what is written.  The format of a record is made from the formats of
its fields (`Format.record`), and so are the data that a reader must get by with.

A reader of a format finds the value again in whatever way it is written
(`Format.ReadBy`).  For a record this comes down to one fact about look-ups
(`FieldsRewrite.lookup`): under the name of a known field there is still what the field
holds, or nothing, and then it held its default.

* `Format.ReadBy.list`: lists are read if their items are.
* `Shape.holds_of_rewrite`: a rewritten record still holds every field of the value.
* `Shape.Holds.required`, `Shape.Holds.optional`: then readers of fields find them.
-/

namespace Activation

/-! ## Fields left out and added -/

/-- What there is to know of a field of a record without its value. -/
structure KnownField where
  /-- The name of the field. -/
  name : String
  /-- What the field holds by default, if it has a default. -/
  default? : Option Data
  /-- The ways to write what the field holds. -/
  Rewrites : Data → Data → Prop

/-- The fields of a record written in another way. -/
inductive FieldsRewrite (known : List KnownField) :
    List (String × Data) → List (String × Data) → Prop where
  /-- There are no fields. -/
  | nil : FieldsRewrite known [] []
  /-- A known field is kept, and what it holds is written in another way. -/
  | keep {field : KnownField} {x y : Data} {fields others : List (String × Data)}
      (mem : field ∈ known) (rewrites : field.Rewrites x y)
      (rest : FieldsRewrite known fields others) :
      FieldsRewrite known ((field.name, x) :: fields) ((field.name, y) :: others)
  /-- A known field is left out, since it holds its default. -/
  | drop {field : KnownField} {x : Data} {fields others : List (String × Data)}
      (mem : field ∈ known) (default : field.default? = some x)
      (rest : FieldsRewrite known fields others) :
      FieldsRewrite known ((field.name, x) :: fields) others
  /-- An unknown field is added. -/
  | add {name : String} {x : Data} {fields others : List (String × Data)}
      (unknown : ∀ field ∈ known, field.name ≠ name)
      (rest : FieldsRewrite known fields others) :
      FieldsRewrite known fields ((name, x) :: others)

/-- A record written in another way. -/
def RecordRewrite (known : List KnownField) (x y : Data) : Prop :=
  ∃ fields others, x = .record fields ∧ y = .record others ∧ FieldsRewrite known fields others

/-- A list whose items are written in other ways. -/
def ListRewrite (rewrites : Data → Data → Prop) (x y : Data) : Prop :=
  ∃ items others, x = .list items ∧ y = .list others ∧ List.Forall₂ rewrites items others

namespace FieldsRewrite

variable {known : List KnownField} {fields others : List (String × Data)} {field : KnownField}

/-- Fields that are known may all be kept as they are. -/
theorem refl (h : ∀ entry ∈ fields, ∃ field ∈ known, field.name = entry.1 ∧
    field.Rewrites entry.2 entry.2) : FieldsRewrite known fields fields := by
  induction fields with
  | nil => exact nil
  | cons entry fields ih =>
    obtain ⟨field, mem, hname, hrefl⟩ := h entry List.mem_cons_self
    have hkeep := keep mem hrefl (ih fun other ho => h other (List.mem_cons_of_mem entry ho))
    rwa [hname] at hkeep

/-- No known field appears that was not there. -/
theorem lookup_eq_none (h : FieldsRewrite known fields others) (mem : field ∈ known)
    (absent : field.name ∉ fields.map Prod.fst) : others.lookup field.name = none := by
  induction h with
  | nil => rfl
  | keep _ _ _ ih =>
    rw [List.map_cons, List.mem_cons, not_or] at absent
    rw [List.lookup_cons, beq_false_of_ne absent.1]
    exact ih absent.2
  | drop _ _ _ ih =>
    rw [List.map_cons, List.mem_cons, not_or] at absent
    exact ih absent.2
  | add unknown _ ih =>
    rw [List.lookup_cons, beq_false_of_ne (unknown field mem)]
    exact ih absent

/-- **A known field** still holds what it held, or it is not there and held its default. -/
theorem lookup (h : FieldsRewrite known fields others)
    (distinct : (known.map KnownField.name).Nodup) (once : (fields.map Prod.fst).Nodup)
    (mem : field ∈ known) {x : Data} (hx : (field.name, x) ∈ fields) :
    (∃ y, others.lookup field.name = some y ∧ field.Rewrites x y) ∨
      others.lookup field.name = none ∧ field.default? = some x := by
  -- Of the first field it is to be decided whether it is the one that is looked for.
  have hfirst : ∀ {other : KnownField} {z : Data} {rest : List (String × Data)},
      other ∈ known → other.name ∉ rest.map Prod.fst →
      (field.name, x) ∈ (other.name, z) :: rest →
      (field = other ∧ x = z ∧ field.name ∉ rest.map Prod.fst) ∨
        field.name ≠ other.name ∧ (field.name, x) ∈ rest := by
    intro other z rest hother hnew hm
    rcases List.mem_cons.mp hm with he | hm
    · obtain ⟨hname, rfl⟩ := Prod.mk.inj he
      obtain rfl := List.inj_on_of_nodup_map distinct mem hother hname
      exact Or.inl ⟨rfl, rfl, hnew⟩
    · refine Or.inr ⟨fun hname => hnew ?_, hm⟩
      exact hname ▸ List.mem_map_of_mem hm
  induction h with
  | nil => exact nomatch hx
  | @keep other z y fields others hother hrewrites _ ih =>
    rw [List.map_cons, List.nodup_cons] at once
    rcases hfirst hother once.1 hx with ⟨rfl, rfl, -⟩ | ⟨hne, hx⟩
    · exact Or.inl ⟨y, List.lookup_cons_self, hrewrites⟩
    · rw [List.lookup_cons, beq_false_of_ne hne]
      exact ih once.2 hx
  | @drop other z fields others hother hdefault hrest ih =>
    rw [List.map_cons, List.nodup_cons] at once
    rcases hfirst hother once.1 hx with ⟨rfl, rfl, habsent⟩ | ⟨-, hx⟩
    · exact Or.inr ⟨hrest.lookup_eq_none mem habsent, hdefault⟩
    · exact ih once.2 hx
  | add unknown _ ih =>
    rw [List.lookup_cons, beq_false_of_ne (unknown field mem)]
    exact ih once hx

end FieldsRewrite

/-! ## Formats -/

/-- How the values of a type are written. -/
structure Format (α : Type) where
  /-- A value as data. -/
  write : α → Data
  /-- The other ways to write what is written. -/
  Rewrites : Data → Data → Prop := Eq
  /-- Among them is what is written. -/
  refl : ∀ a, Rewrites (write a) (write a) := by exact fun _ => rfl

/-- A field of a record that stands for values of a type. -/
structure Field (α : Type) extends KnownField where
  /-- What the field holds for a value. -/
  write : α → Data
  /-- It may be written as it is. -/
  refl : ∀ a, Rewrites (write a) (write a)

/-- The fields of the records that stand for values of a type. -/
structure Shape (α : Type) where
  /-- The fields, in the order in which they are written. -/
  fields : List (Field α)
  /-- No two fields share a name. -/
  distinct : (fields.map fun field => field.name).Nodup := by decide

variable {α β : Type}

namespace Field

/-- A field that has no default. -/
def required (name : String) (format : Format β) (get : α → β) : Field α where
  name
  default? := none
  Rewrites := format.Rewrites
  write a := format.write (get a)
  refl a := format.refl (get a)

/-- A field that has a default. -/
def optional (name : String) (format : Format β) (get : α → β) (default : β) : Field α where
  name
  default? := some (format.write default)
  Rewrites := format.Rewrites
  write a := format.write (get a)
  refl a := format.refl (get a)

/-- A field of a part. -/
def comap (get : β → α) (field : Field α) : Field β where
  toKnownField := field.toKnownField
  write b := field.write (get b)
  refl b := field.refl (get b)

end Field

namespace Shape

/-- The fields of a record without their values. -/
def known (shape : Shape α) : List KnownField :=
  shape.fields.map Field.toKnownField

/-- The fields of a record for a value. -/
def write (shape : Shape α) (a : α) : List (String × Data) :=
  shape.fields.map fun field => (field.name, field.write a)

theorem rewrite_refl (shape : Shape α) (a : α) :
    FieldsRewrite shape.known (shape.write a) (shape.write a) := by
  refine .refl fun entry he => ?_
  obtain ⟨field, hf, rfl⟩ := List.mem_map.mp he
  exact ⟨field.toKnownField, List.mem_map_of_mem hf, rfl, field.refl a⟩

end Shape

namespace Format

/-- Values that are written in one way only. -/
def plain (write : α → Data) : Format α where
  write

/-- Lists of values. -/
def list (format : Format α) : Format (List α) where
  write items := .list (items.map format.write)
  Rewrites := ListRewrite format.Rewrites
  refl items := by
    refine ⟨_, _, rfl, rfl, ?_⟩
    rw [List.forall₂_map_left_iff, List.forall₂_map_right_iff, List.forall₂_same]
    exact fun a _ => format.refl a

/-- Values with names of their own, which are no fields that could be left out. -/
def pairs (format : Format α) : Format (List (String × α)) :=
  plain fun entries => .record (entries.map fun entry => (entry.1, format.write entry.2))

/-- Values that are written as records. -/
def record (shape : Shape α) : Format α where
  write a := .record (shape.write a)
  Rewrites := RecordRewrite shape.known
  refl a := ⟨_, _, rfl, rfl, shape.rewrite_refl a⟩

/-- A reader finds every value again, in whatever way it is written. -/
def ReadBy (format : Format α) (read : Data → Option α) : Prop :=
  ∀ a data, format.Rewrites (format.write a) data → read data = some a

/-- What is written for different values is different. -/
theorem ReadBy.injective {format : Format α} {read : Data → Option α} (h : format.ReadBy read) :
    Function.Injective format.write := by
  intro a b hwrite
  have ha := h a _ (format.refl a)
  rw [hwrite, h b _ (format.refl b)] at ha
  exact (Option.some.inj ha).symm

theorem ReadBy.plain {write : α → Data} {read : Data → Option α}
    (h : ∀ a, read (write a) = some a) : (Format.plain write).ReadBy read := by
  rintro a data rfl
  exact h a

theorem ReadBy.mapM {format : Format α} {read : Data → Option α} (h : format.ReadBy read)
    {items : List α} {others : List Data}
    (hrewrites : List.Forall₂ format.Rewrites (items.map format.write) others) :
    others.mapM read = some items := by
  induction items generalizing others with
  | nil =>
    cases hrewrites
    rfl
  | cons a items ih =>
    rw [List.map_cons] at hrewrites
    obtain ⟨y, rest, hy, hrest, rfl⟩ := List.forall₂_cons_left_iff.mp hrewrites
    rw [List.mapM_cons, h a y hy, ih hrest]
    rfl

/-- **Lists are read** if their items are. -/
theorem ReadBy.list {format : Format α} {read : Data → Option α} (h : format.ReadBy read) :
    format.list.ReadBy (Data.list? read) := by
  rintro items data ⟨written, others, hwritten, rfl, hrewrites⟩
  obtain rfl := Data.list.inj hwritten
  exact h.mapM hrewrites

/-- Values with names are read if the values are. -/
theorem ReadBy.pairs {format : Format α} {read : Data → Option α} (h : format.ReadBy read) :
    format.pairs.ReadBy (Data.pairs? read) := by
  refine .plain fun entries => ?_
  rw [Data.pairs?]
  induction entries with
  | nil => rfl
  | cons entry entries ih =>
    rw [List.map_cons, List.mapM_cons, h entry.2 _ (format.refl entry.2), ih]
    rfl

end Format

/-! ## Reading records -/

/-- Every field of a value is found among given fields: it is there, written in some way, or it
is not there and holds its default. -/
def Shape.Holds (shape : Shape α) (a : α) (fields : List (String × Data)) : Prop :=
  ∀ field ∈ shape.fields,
    (∃ y, fields.lookup field.name = some y ∧ field.Rewrites (field.write a) y) ∨
      fields.lookup field.name = none ∧ field.default? = some (field.write a)

namespace Shape

variable {shape : Shape α} {a : α} {fields : List (String × Data)}

/-- **A rewritten record** still holds every field of the value. -/
theorem holds_of_rewrite (h : FieldsRewrite shape.known (shape.write a) fields) :
    shape.Holds a fields := by
  intro field hf
  have hknown : field.toKnownField ∈ shape.known := List.mem_map_of_mem hf
  refine h.lookup ?_ ?_ hknown (List.mem_map_of_mem hf)
  · rw [known, List.map_map]
    exact shape.distinct
  · rw [write, List.map_map]
    exact shape.distinct

namespace Holds

variable {format : Format β} {read : Data → Option β} {name : String} {get : α → β}

/-- **A required field** is read from fields that hold the value. -/
theorem required (h : shape.Holds a fields) (hread : format.ReadBy read) (i : Nat)
    (hf : shape.fields[i]? = some (.required name format get)) :
    Data.required fields name read = some (get a) := by
  rcases h _ (List.mem_of_getElem? hf) with ⟨y, hy, hrewrites⟩ | ⟨-, hnone⟩
  · have hlookup : fields.lookup name = some y := hy
    rw [Data.required, hlookup]
    exact hread _ _ hrewrites
  · exact nomatch hnone

/-- **A field with a default** is read from fields that hold the value. -/
theorem optional (h : shape.Holds a fields) (hread : format.ReadBy read) (i : Nat) {default : β}
    (hf : shape.fields[i]? = some (.optional name format get default)) :
    Data.optional fields name read default = some (get a) := by
  rcases h _ (List.mem_of_getElem? hf) with ⟨y, hy, hrewrites⟩ | ⟨hy, hdefault⟩
  · have hlookup : fields.lookup name = some y := hy
    rw [Data.optional, hlookup]
    exact hread _ _ hrewrites
  · -- What is written for the value is what is written for the default.
    have hlookup : fields.lookup name = none := hy
    have hdefault : format.write default = format.write (get a) := Option.some.inj hdefault
    rw [Data.optional, hlookup, hread.injective hdefault]

end Holds
end Shape
end Activation
