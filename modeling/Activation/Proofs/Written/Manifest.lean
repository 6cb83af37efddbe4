import Activation.Manifest
import Activation.Proofs.Tables
import Activation.Proofs.Written.Conditions

/-!
# The written forms of manifests

A manifest is written with all of its fields, and so are the definitions, beans, rules and
settings in it.  It is read back from much less: at every depth a field may be missing that
held its default, and fields may be there that no reader knows.  Writer, reader and defaults
therefore have to agree on every record that can occur in a manifest.  They do, as each reader
finds the values again that are written in its format, and a format for a record is made
from formats for what its fields hold.

* `Definition.format_readBy`, `Settings.format_readBy`, `Manifest.format_readBy`: the readers
  of the three kinds of records find their values again.
* `Manifest.ofData?_rewritten`: so nothing is lost in writing a manifest.
-/

namespace Activation

/-! ## Definitions of units -/

namespace Definition

/-- A precedence is read as it was written, since it fits. -/
theorem orderOf?_orderData (order : Option Int32) : orderOf? (orderData order) = some order := by
  cases order with
  | none => rfl
  | some order =>
    have hlower := order.le_toInt
    have hupper := order.toInt_lt
    rw [orderData, orderOf?, Text.toInt32?, if_pos (by omega), Int32.ofInt_toInt, Option.map_some]

/-- The fields of a definition. -/
def shape : Shape Definition where
  fields := [
    .required "name" .text name,
    .optional "conditions" Rule.format.list rules [],
    .optional "order" (.plain orderData) order none,
    .optional "before" .texts before [],
    .optional "after" .texts after [],
    .optional "provides" Bean.format.list provides []]

/-- Definitions are written as records. -/
def format : Format Definition := .record shape

/-- **Definitions are read back**, in whatever way they are written. -/
theorem format_readBy (origin : Origin) : format.ReadBy (ofData? origin) := by
  rintro definition data ⟨_, fields, hwritten, rfl, h⟩
  cases hwritten
  have held : shape.Holds definition fields := Shape.holds_of_rewrite h
  have hname := held.required Format.text_readBy 0 rfl
  have hrules := held.optional Rule.format_readBy.list 1 rfl
  have horder := held.optional (.plain orderOf?_orderData) 2 rfl
  have hbefore := held.optional Format.texts_readBy 3 rfl
  have hafter := held.optional Format.texts_readBy 4 rfl
  have hprovides := held.optional (Bean.format_readBy origin).list 5 rfl
  simp only [ofData?, Data.fields?, hname, hrules, horder, hbefore, hafter, hprovides,
    Option.bind_eq_bind, Option.bind_some]

end Definition

/-! ## Settings -/

namespace Settings

theorem mode_readBy (origin : Origin) :
    (Format.plain fun mode : PrefilterMode => .text mode.word).ReadBy
      (PrefilterMode.ofData? origin) :=
  .plain fun mode => PrefilterMode.ofWord?_word mode

theorem policy_readBy (origin : Origin) :
    (Format.plain fun policy : ExclusionPolicy => .text policy.word).ReadBy
      (ExclusionPolicy.ofData? origin) :=
  .plain fun policy => ExclusionPolicy.ofWord?_word policy

/-- The fields of settings. -/
def shape : Shape Settings where
  fields := [
    .optional "capability-key" .text capability "auto-configuration",
    .optional "prefilter-mode" (.plain fun mode => .text mode.word) mode .auto,
    .optional "exclusion-policy" (.plain fun policy => .text policy.word) policy .strict,
    .optional "enabled" .flag enabled true]

/-- Settings are written as records. -/
def format : Format Settings := .record shape

/-- **Settings are read back**, in whatever way they are written. -/
theorem format_readBy (origin : Origin) : format.ReadBy (ofData? origin) := by
  rintro settings data ⟨_, fields, hwritten, rfl, h⟩
  cases hwritten
  have held : shape.Holds settings fields := Shape.holds_of_rewrite h
  have hcapability := held.optional Format.text_readBy 0 rfl
  have hmode := held.optional (mode_readBy origin) 1 rfl
  have hpolicy := held.optional (policy_readBy origin) 2 rfl
  have henabled := held.optional Format.flag_readBy 3 rfl
  simp only [ofData?, Data.fields?, hcapability, hmode, hpolicy, henabled,
    Option.bind_eq_bind, Option.bind_some]

end Settings

/-! ## Manifests -/

namespace Manifest

/-- The fields of a manifest.  The entries of its tables are no fields: none of them has a
default, and a further one would be a further entry. -/
def shape : Shape Manifest where
  fields := [
    .optional "classpath" .texts symbols [],
    .optional "broken" .texts broken [],
    .optional "factories" Format.texts.pairs (fun manifest => manifest.offers.toList) [],
    .optional "metadata" Format.text.pairs (fun manifest => manifest.metadata.toList) [],
    .optional "properties" Format.text.pairs (fun manifest => manifest.properties.toList) [],
    .optional "beans" Bean.format.list beans [],
    .optional "units" Definition.format.list units [],
    .optional "engine" Settings.format settings {}]

/-- Manifests are written as records. -/
def format : Format Manifest := .record shape

/-- **Manifests are read back**, in whatever way they are written. -/
theorem format_readBy (origin : Origin) : format.ReadBy (ofData? origin) := by
  rintro manifest data ⟨_, fields, hwritten, rfl, h⟩
  cases hwritten
  have held : shape.Holds manifest fields := Shape.holds_of_rewrite h
  have hsymbols := held.optional Format.texts_readBy 0 rfl
  have hbroken := held.optional Format.texts_readBy 1 rfl
  have hoffers := held.optional Format.texts_readBy.pairs 2 rfl
  have hmetadata := held.optional Format.text_readBy.pairs 3 rfl
  have hproperties := held.optional Format.text_readBy.pairs 4 rfl
  have hbeans := held.optional (Bean.format_readBy origin).list 5 rfl
  have hunits := held.optional (Definition.format_readBy origin).list 6 rfl
  have hsettings := held.optional (Settings.format_readBy origin) 7 rfl
  simp only [ofData?, Data.fields?, hsymbols, hbroken, hoffers, hmetadata, hproperties, hbeans,
    hunits, hsettings, Tables.ofList_toList, Option.bind_eq_bind, Option.bind_some]

/-- **Nothing is lost in writing.**  What is written for a manifest is read back as the manifest;
and so is whatever is made from it by leaving out, at any depth, fields that hold their defaults,
and by adding fields that are not known to the records of the manifest, the settings, the beans,
the units and the rules. -/
theorem ofData?_rewritten (origin : Origin) (manifest : Manifest) :
    ofData? origin manifest.toData = some manifest ∧
    ∀ data, RecordRewrite shape.known manifest.toData data →
      ofData? origin data = some manifest :=
  ⟨format_readBy origin manifest _ (format.refl manifest),
    fun data h => format_readBy origin manifest data h⟩

/-- A manifest with one unit, which needs a web stack of any kind. -/
def siteManifest : Manifest where
  symbols := ["Site"]
  units := [{ name := "site", rules := [.requiresWeb .any] }]

/-- What has to be written for it, with remarks that no reader knows. -/
def siteData : Data :=
  .record [("classpath", .list [.text "Site"]), ("version", .int 2),
    ("units", .list [.record [("name", .text "site"),
      ("conditions", .list [.record [("since", .null), ("kind", .text "on-web-application")]]),
      ("remark", .text "home page")]])]

theorem siteData_rewrites : RecordRewrite shape.known siteManifest.toData siteData := by
  have hrule : Rule.Rewrites (Rule.toData (.requiresWeb .any))
      (.record [("since", .null), ("kind", .text "on-web-application")]) := by
    refine ⟨.onWebApplication, _, _, rfl, rfl, ?_⟩
    exact .add (by decide) (.keep (.head _) rfl (.drop (.tail _ (.head _)) rfl .nil))
  have hunit : Definition.format.Rewrites
      (Definition.toData { name := "site", rules := [.requiresWeb .any] })
      (.record [("name", .text "site"),
        ("conditions", .list [.record [("since", .null), ("kind", .text "on-web-application")]]),
        ("remark", .text "home page")]) := by
    have known : ∀ i field, Definition.shape.known[i]? = some field →
        field ∈ Definition.shape.known := fun _ _ => List.mem_of_getElem?
    refine ⟨_, _, rfl, rfl, .keep (known 0 _ rfl) rfl ?_⟩
    refine .keep (known 1 _ rfl) ⟨_, _, rfl, rfl, .cons hrule .nil⟩ (.add (by decide) ?_)
    exact .drop (known 2 _ rfl) rfl <| .drop (known 3 _ rfl) rfl <| .drop (known 4 _ rfl) rfl <|
      .drop (known 5 _ rfl) rfl .nil
  have known : ∀ i field, shape.known[i]? = some field → field ∈ shape.known :=
    fun _ _ => List.mem_of_getElem?
  refine ⟨_, _, rfl, rfl, .keep (known 0 _ rfl) ⟨_, _, rfl, rfl, .cons rfl .nil⟩ ?_⟩
  refine .add (by decide) <| .drop (known 1 _ rfl) rfl <| .drop (known 2 _ rfl) rfl <|
    .drop (known 3 _ rfl) rfl <| .drop (known 4 _ rfl) rfl <| .drop (known 5 _ rfl) rfl ?_
  exact .keep (known 6 _ rfl) ⟨_, _, rfl, rfl, .cons hunit .nil⟩ (.drop (known 7 _ rfl) rfl .nil)

theorem ofData?_rewritten_site :
    RecordRewrite shape.known siteManifest.toData siteData ∧
    ofData? .json siteManifest.toData = some siteManifest ∧
    ofData? .json siteData = some siteManifest := by
  obtain ⟨hwritten, hrewritten⟩ := ofData?_rewritten .json siteManifest
  exact ⟨siteData_rewrites, hwritten, hrewritten siteData siteData_rewrites⟩

end Manifest
end Activation
