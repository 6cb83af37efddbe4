import Activation.Proofs.Written.Rewriting
import Activation.Written.Conditions

/-!
# The written forms of beans and rules

The shapes of the records that stand for beans, queries and rules: which fields there
are, which of them may be left out, and what they then hold.  A rule is written as one
record, with its kind in front of the fields of what belongs to the kind (`Rule.tagged`).
Which fields are known therefore depends on the kind (`Rule.known`), and a field that
belongs to another kind is as good as unknown.

Readers find beans and rules again in whatever way they are written
(`Bean.format_readBy`, `Rule.format_readBy`).
-/

namespace Activation

/-! ## Simple values and beans -/

namespace Format

/-- Texts. -/
def text : Format String := plain .text

/-- Truth values. -/
def flag : Format Bool := plain .bool

/-- Lists of texts. -/
def texts : Format (List String) := text.list

theorem text_readBy : text.ReadBy Data.text? := .plain fun _ => rfl

theorem flag_readBy : flag.ReadBy Data.bool? := .plain fun _ => rfl

theorem texts_readBy : texts.ReadBy Data.texts? := text_readBy.list

end Format

namespace Bean

/-- The fields of a bean. -/
def shape : Shape Bean where
  fields := [
    .required "name" .text name,
    .optional "types" .texts types [],
    .optional "annotations" .texts annotations [],
    .optional "primary" .flag primary false]

/-- Beans are written as records. -/
def format : Format Bean := .record shape

/-- **Beans are read back**, in whatever way they are written. -/
theorem format_readBy (origin : Origin) : format.ReadBy (ofData? origin) := by
  rintro bean data ⟨_, fields, hwritten, rfl, h⟩
  cases hwritten
  have held : shape.Holds bean fields := Shape.holds_of_rewrite h
  have hname := held.required Format.text_readBy 0 rfl
  have htypes := held.optional Format.texts_readBy 1 rfl
  have hannotations := held.optional Format.texts_readBy 2 rfl
  have hprimary := held.optional Format.flag_readBy 3 rfl
  simp only [ofData?, Data.fields?, hname, htypes, hannotations, hprimary,
    Option.bind_eq_bind, Option.bind_some]

end Bean

/-! ## What belongs to a rule of some kind -/

theorem Search.readBy (origin : Origin) :
    (Format.plain Search.toData).ReadBy (Search.ofData? origin) :=
  .plain fun search => ofWord?_word search

theorem WebNeed.readBy (origin : Origin) :
    (Format.plain WebNeed.toData).ReadBy (WebNeed.ofData? origin) :=
  .plain fun need => ofWord?_word need

namespace BeanQuery

/-- The fields of a query for beans. -/
def shape : Shape BeanQuery where
  fields := [
    .optional "types" .texts types [],
    .optional "names" .texts names [],
    .optional "annotations" .texts annotations [],
    .optional "ignored_types" .texts ignoredTypes [],
    .optional "search" (.plain Search.toData) search .all]

theorem ofData?_of_holds {query : BeanQuery} {fields : List (String × Data)}
    (held : shape.Holds query fields) (origin : Origin) :
    ofData? origin (.record fields) = some query := by
  have htypes := held.optional Format.texts_readBy 0 rfl
  have hnames := held.optional Format.texts_readBy 1 rfl
  have hannotations := held.optional Format.texts_readBy 2 rfl
  have hignored := held.optional Format.texts_readBy 3 rfl
  have hsearch := held.optional (Search.readBy origin) 4 rfl
  simp only [ofData?, Data.fields?, htypes, hnames, hannotations, hignored, hsearch,
    Option.bind_eq_bind, Option.bind_some]

end BeanQuery

namespace PropertyQuery

/-- The fields of a query for properties. -/
def shape : Shape PropertyQuery where
  fields := [
    .optional "prefix" .text stem "",
    .required "names" .texts names,
    .optional "having_value" .text expected "",
    .optional "match_if_missing" .flag missingMatches false]

theorem ofData?_of_holds {query : PropertyQuery} {fields : List (String × Data)}
    (held : shape.Holds query fields) (origin : Origin) :
    ofData? origin (.record fields) = some query := by
  have hstem := held.optional Format.text_readBy 0 rfl
  have hnames := held.required Format.texts_readBy 1 rfl
  have hexpected := held.optional Format.text_readBy 2 rfl
  have hmissing := held.optional Format.flag_readBy 3 rfl
  simp only [ofData?, Data.fields?, hstem, hnames, hexpected, hmissing, Option.bind_eq_bind,
    Option.bind_some]

end PropertyQuery

/-! ## Rules -/

namespace Rule

/-- The fields of a rule about symbols. -/
def symbolsShape : Shape (List Symbol) where
  fields := [.required "symbols" .texts id]

/-- The fields of a rule about the web stack. -/
def needShape : Shape WebNeed where
  fields := [.optional "web_type" (.plain WebNeed.toData) id .any]

theorem symbolsOf?_of_holds {symbols : List Symbol} {fields : List (String × Data)}
    (held : symbolsShape.Holds symbols fields) : symbolsOf? (.record fields) = some symbols :=
  held.required Format.texts_readBy 0 rfl

theorem needOf?_of_holds {need : WebNeed} {fields : List (String × Data)}
    (held : needShape.Holds need fields) : needOf? (.record fields) = some need :=
  held.optional (WebNeed.readBy .rule) 0 rfl

theorem kind_readBy : (Format.plain Kind.toData).ReadBy kindOf? :=
  .plain fun kind => Kind.ofWord?_word kind

/-- The fields of a rule: its kind, and the fields of what belongs to it. -/
def tagged {α : Type} (shape : Shape α)
    (fresh : "kind" ∉ shape.fields.map fun field => field.name := by decide) :
    Shape (Kind × α) where
  fields := .required "kind" (.plain Kind.toData) Prod.fst :: shape.fields.map (.comap Prod.snd)
  distinct := by
    rw [List.map_cons, List.map_map]
    exact List.nodup_cons.mpr ⟨fresh, shape.distinct⟩

/-- The fields that are known of a rule of some kind. -/
def known : Kind → List KnownField
  | .onClass | .onMissingClass => (tagged symbolsShape).known
  | .onBean | .onSingleCandidate | .onMissingBean => (tagged BeanQuery.shape).known
  | .onProperty => (tagged PropertyQuery.shape).known
  | .onWebApplication => (tagged needShape).known

/-- A rule written in another way.  Its kind is always there, and says what else is known. -/
def Rewrites (x y : Data) : Prop :=
  ∃ kind rest fields, x = .record (("kind", Kind.toData kind) :: rest) ∧ y = .record fields ∧
    FieldsRewrite (known kind) (("kind", Kind.toData kind) :: rest) fields

theorem write_tagged {α : Type} (shape : Shape α) (fresh) (kind : Kind) (a : α) :
    (tagged shape fresh).write (kind, a) = ("kind", kind.toData) :: shape.write a := by
  rw [Shape.write, tagged, List.map_cons, List.map_map]
  rfl

/-- **What a rule consists of.**  Besides its kind, a rule writes the fields of a value of some
shape; they are those that are known of its kind, and from them it is read again. -/
theorem exists_part (rule : Rule) : ∃ (α : Type) (shape : Shape α) (fresh : _) (part : α),
    known rule.kind = (tagged shape fresh).known ∧ rule.toFields = shape.write part ∧
    ∀ fields, shape.Holds part fields → ofRest? (.record fields) rule.kind = some rule := by
  cases rule with
  | requiresSymbols symbols =>
    refine ⟨_, symbolsShape, by decide, symbols, rfl, rfl, fun fields held => ?_⟩
    rw [kind, ofRest?, symbolsOf?_of_holds held, Option.map_some]
  | forbidsSymbols symbols =>
    refine ⟨_, symbolsShape, by decide, symbols, rfl, rfl, fun fields held => ?_⟩
    rw [kind, ofRest?, symbolsOf?_of_holds held, Option.map_some]
  | requiresBeans query =>
    refine ⟨_, BeanQuery.shape, by decide, query, rfl, rfl, fun fields held => ?_⟩
    rw [kind, ofRest?, BeanQuery.ofData?_of_holds held, Option.map_some]
  | requiresSingleBean query =>
    refine ⟨_, BeanQuery.shape, by decide, query, rfl, rfl, fun fields held => ?_⟩
    rw [kind, ofRest?, BeanQuery.ofData?_of_holds held, Option.map_some]
  | forbidsBeans query =>
    refine ⟨_, BeanQuery.shape, by decide, query, rfl, rfl, fun fields held => ?_⟩
    rw [kind, ofRest?, BeanQuery.ofData?_of_holds held, Option.map_some]
  | requiresProperties query =>
    refine ⟨_, PropertyQuery.shape, by decide, query, rfl, rfl, fun fields held => ?_⟩
    rw [kind, ofRest?, PropertyQuery.ofData?_of_holds held, Option.map_some]
  | requiresWeb need =>
    refine ⟨_, needShape, by decide, need, rfl, rfl, fun fields held => ?_⟩
    rw [kind, ofRest?, needOf?_of_holds held, Option.map_some]

theorem rewrites_refl (rule : Rule) : Rewrites rule.toData rule.toData := by
  obtain ⟨α, shape, fresh, part, hknown, hfields, -⟩ := exists_part rule
  refine ⟨rule.kind, rule.toFields, _, rfl, rfl, ?_⟩
  rw [hknown, hfields, ← write_tagged shape fresh]
  exact (tagged shape fresh).rewrite_refl (rule.kind, part)

/-- How rules are written. -/
def format : Format Rule where
  write := toData
  Rewrites := Rewrites
  refl := rewrites_refl

/-- **Rules are read back**, in whatever way they are written. -/
theorem format_readBy : format.ReadBy ofData? := by
  rintro rule data ⟨kind, rest, fields, hwritten, rfl, h⟩
  -- The kind in front of what is written is that of the rule.
  obtain ⟨hkind, rfl⟩ := List.cons.inj (Data.record.inj hwritten)
  obtain rfl : rule.kind = kind := kind_readBy.injective (Prod.mk.inj hkind).2
  obtain ⟨α, shape, fresh, part, hknown, hfields, hread⟩ := exists_part rule
  rw [hknown, hfields, ← write_tagged shape fresh] at h
  have held : (tagged shape fresh).Holds (rule.kind, part) fields := Shape.holds_of_rewrite h
  have hkind := held.required kind_readBy 0 rfl
  have hpart : shape.Holds part fields := fun field hf =>
    held (field.comap Prod.snd) (.tail _ (List.mem_map_of_mem hf))
  rw [ofData?, hkind]
  exact hread fields hpart

end Rule
end Activation
