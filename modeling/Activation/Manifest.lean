import Activation.Capabilities
import Activation.Metadata
import Activation.Resolution
import Activation.Toml
import Activation.Written.Units

/-!
# Build manifests

A manifest describes everything that a pass needs: the symbols of the build, the
candidates of each capability, the metadata index, properties, the beans that are
there from the start, the definitions of units, and the settings of the engine.
Each of them is read off the manifest by a function of its own.

A manifest is written as a TOML document.  Everything in it may be left out.
-/

namespace Activation

/-- The description of a build. -/
structure Manifest where
  /-- The symbols of the build. -/
  symbols : List Symbol := []
  /-- The symbols whose own needs are missing. -/
  broken : List Symbol := []
  /-- The candidates of each capability. -/
  offers : Std.ExtTreeMap String (List UnitName) := ∅
  /-- The entries of the metadata index. -/
  metadata : Std.ExtTreeMap String String := ∅
  /-- The properties. -/
  properties : Std.ExtTreeMap String String := ∅
  /-- The beans that are there from the start. -/
  beans : List Bean := []
  /-- The definitions of units. -/
  units : List Definition := []
  /-- The settings of the engine. -/
  settings : Settings := {}
  deriving DecidableEq

namespace Manifest

/-- The symbols of the build. -/
def build (manifest : Manifest) : Build :=
  .ofLists manifest.symbols manifest.broken

/-- The registry with the beans of the manifest. -/
def registry (manifest : Manifest) : Registry :=
  { current := .ofList manifest.beans }

/-- The name of the source made from the properties of a manifest. -/
def sourceName : String := "manifest"

/-- The properties of the manifest. -/
def source (manifest : Manifest) : PropertySource :=
  { name := sourceName, properties := manifest.properties }

/-- The environment with nothing but the properties of the manifest. -/
def env (manifest : Manifest) : Environment :=
  ⟨[manifest.source]⟩

/-- The candidates of each capability. -/
def capabilities (manifest : Manifest) : Capabilities :=
  ⟨manifest.offers⟩

/-- The metadata index. -/
def index (manifest : Manifest) : Metadata :=
  ⟨manifest.metadata⟩

/-- The definitions of units. -/
def catalog (manifest : Manifest) : Catalog :=
  .ofDefinitions manifest.units

/-- The engine with the settings of the manifest. -/
def engine (manifest : Manifest) : Engine :=
  { oracle := manifest.build.oracle
    index := manifest.index
    catalog := manifest.catalog
    settings := manifest.settings }

/-- A manifest as data. -/
def toData (manifest : Manifest) : Data :=
  .record [("classpath", .ofTexts manifest.symbols), ("broken", .ofTexts manifest.broken),
    ("factories", .record (manifest.offers.toList.map fun offer => (offer.1, .ofTexts offer.2))),
    ("metadata", .record (manifest.metadata.toList.map fun entry => (entry.1, .text entry.2))),
    ("properties", .record (manifest.properties.toList.map fun entry => (entry.1, .text entry.2))),
    ("beans", .list (manifest.beans.map Bean.toData)),
    ("units", .list (manifest.units.map Definition.toData)),
    ("engine", manifest.settings.toData)]

/-- The manifest that data write. -/
def ofData? (origin : Origin) (data : Data) : Option Manifest := do
  let fields ← data.fields? origin
    ["classpath", "broken", "factories", "metadata", "properties", "beans", "units", "engine"]
  let symbols ← Data.optional fields "classpath" Data.texts? []
  let broken ← Data.optional fields "broken" Data.texts? []
  let offers ← Data.optional fields "factories" (Data.pairs? Data.texts?) []
  let metadata ← Data.optional fields "metadata" (Data.pairs? Data.text?) []
  let properties ← Data.optional fields "properties" (Data.pairs? Data.text?) []
  let beans ← Data.optional fields "beans" (Data.list? (Bean.ofData? origin)) []
  let units ← Data.optional fields "units" (Data.list? (Definition.ofData? origin)) []
  let settings ← Data.optional fields "engine" (Settings.ofData? origin) {}
  some
    { symbols, broken
      offers := Std.ExtTreeMap.ofList offers
      metadata := Std.ExtTreeMap.ofList metadata
      properties := Std.ExtTreeMap.ofList properties
      beans, units, settings }

/-- The manifest that a TOML document writes. -/
def read? (text : String) : Option Manifest :=
  (Toml.read? text).bind (ofData? .toml)

end Manifest
end Activation
