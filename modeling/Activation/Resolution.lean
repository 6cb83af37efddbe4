import Activation.Capabilities
import Activation.Order
import Activation.Prefilter
import Activation.Report
import Activation.Resolution.Evaluation
import Activation.Settings

/-!
# Resolution

A resolution pass takes the candidates for activation and finds out which of them
are accepted and in which order they are applied.  It removes repetitions, then
the exclusions, then what the pre-filter sorts out; it evaluates the rest unit by
unit, and it arranges the accepted units.

Every distinct candidate ends up in one of three places: it is accepted, rejected
with the outcomes against it, or excluded.  If the engine is switched off,
nothing happens at all.
-/

namespace Activation

/-- The stages of a pass. -/
inductive Stage where
  /-- The candidates are gathered. -/
  | gather
  /-- Repetitions are removed. -/
  | deduplicate
  /-- Exclusions are removed. -/
  | exclude
  /-- Candidates that cannot succeed are sorted out. -/
  | prefilter
  /-- Conditions are evaluated. -/
  | evaluate
  /-- Accepted units are arranged. -/
  | order
  /-- The result is given out. -/
  | emit
  deriving DecidableEq, Repr

namespace Stage

/-- Every stage, in the order in which they follow each other. -/
def all : List Stage := [gather, deduplicate, exclude, prefilter, evaluate, order, emit]

/-- The word for a stage. -/
def word : Stage → String
  | gather => "gather"
  | deduplicate => "deduplicate"
  | exclude => "exclude"
  | prefilter => "pre-filter"
  | evaluate => "evaluate"
  | order => "order"
  | emit => "emit"

end Stage

/-- What a pass is asked to resolve. -/
structure Request where
  /-- The candidates, perhaps with repetitions. -/
  candidates : List UnitName
  /-- The units excluded outright. -/
  exclude : List UnitName := []
  /-- The names of exclusions that a user gave. -/
  excludeNames : List String := []
  /-- The properties. -/
  env : Environment := {}

/-- What a pass finds out. -/
structure Resolution where
  /-- The accepted units in the order in which they are applied. -/
  accepted : List UnitName := []
  /-- The rejected units, with the outcomes. -/
  rejected : Std.ExtTreeMap UnitName (List Outcome) := ∅
  /-- The excluded candidates, in their order. -/
  excluded : List UnitName := []
  /-- Why the units are accepted or rejected. -/
  report : Report := {}
  /-- Whether the engine was switched off. -/
  disabled : Bool := false
  deriving DecidableEq

namespace Resolution

/-- What a pass finds out if the engine is switched off. -/
def switchedOff : Resolution := { disabled := true }

/-- Whether a unit is accepted. -/
def isAccepted (resolution : Resolution) (unit : UnitName) : Bool :=
  resolution.accepted.contains unit

/-- Whether a unit is rejected. -/
def isRejected (resolution : Resolution) (unit : UnitName) : Bool :=
  resolution.rejected.contains unit

/-- The number of units that the pass accounts for. -/
def total (resolution : Resolution) : Nat :=
  resolution.accepted.length + resolution.rejected.size + resolution.excluded.length

end Resolution

/-- Everything that stays the same from one pass to the next. -/
structure Engine where
  /-- Which symbols are there. -/
  oracle : Oracle
  /-- What is known of units ahead of time. -/
  index : Metadata := {}
  /-- The definitions of units. -/
  catalog : Catalog := ∅
  /-- The settings, before properties override them. -/
  settings : Settings := {}
  /-- The filters to be applied, if not the standard ones. -/
  filters : Option FilterChain := none
  /-- What the pre-filter may work with. -/
  machine : Machine := {}

namespace Engine

/-- The web stack that the engine deduces. -/
def stack (engine : Engine) : WebStack :=
  .deduce engine.oracle

/-- The candidates offered under the capability of the engine. -/
def gather (engine : Engine) (caps : Capabilities) : List UnitName :=
  caps.candidates engine.settings.capability

/-- The settings that hold in an environment. -/
def settingsIn (engine : Engine) (env : Environment) : Settings :=
  engine.settings.overriddenBy env

/-- The filters that an engine with given settings applies. -/
def chain (engine : Engine) (settings : Settings) : FilterChain :=
  engine.filters.getD (.standard settings.mode)

/-- The slots of the candidates after the pre-filter. -/
def prefilter (engine : Engine) (settings : Settings) (candidates : List UnitName) : List Slot :=
  (engine.chain settings).apply engine.machine engine.index engine.oracle candidates

/-- The report on the exclusions, the candidates sorted out and the decisions. -/
def reportOn (exclusions : List UnitName) (sorted : List (UnitName × Outcome))
    (decisions : List (UnitName × Decision)) : Report :=
  let report := ({} : Report).recordExclusions exclusions
  let report := sorted.foldl (fun report entry => report.recordOutcomes entry.1 [entry.2]) report
  decisions.foldl
    (fun report entry =>
      match entry.2 with
      | .unconditional => report.recordUnconditional entry.1
      | .judged verdict => report.recordOutcomes entry.1 verdict.outcomes)
    report

/-- The units that were accepted, in the order of evaluation. -/
def acceptedIn (decisions : List (UnitName × Decision)) : List UnitName :=
  (decisions.filter fun entry => entry.2.isAccepted).map Prod.fst

/-- The units that were sorted out or rejected, with the outcomes against them. -/
def rejectedIn (sorted : List (UnitName × Outcome)) (decisions : List (UnitName × Decision)) :
    Std.ExtTreeMap UnitName (List Outcome) :=
  .ofList (sorted.map (fun entry => (entry.1, [entry.2])) ++
    decisions.filterMap fun entry => entry.2.against?.map fun outcomes => (entry.1, outcomes))

/-- A pass over distinct candidates from which the given exclusions are removed. -/
def resolveDistinct {σ : Type} (engine : Engine) (host : Host σ) (settings : Settings)
    (env : Environment) (candidates exclusions : List UnitName) (state : σ) :
    Except Failure Resolution × σ :=
  let slots := engine.prefilter settings (Exclusion.kept candidates exclusions)
  let sorted := FilterChain.rejected slots
  match Decision.forEach host engine.oracle engine.catalog env state
      (FilterChain.survivors slots) with
  | (.error problem, state) => (.error (.malformed problem), state)
  | (.ok decisions, state) =>
    let result := (Order.arrange engine.index engine.catalog (acceptedIn decisions)).map
      fun accepted =>
        { accepted
          rejected := rejectedIn sorted decisions
          excluded := Exclusion.excluded candidates exclusions
          report := reportOn exclusions sorted decisions }
    (result, state)

/-- A pass: what it finds out, and the state in which it leaves the host. -/
def resolve {σ : Type} (engine : Engine) (host : Host σ) (request : Request) (state : σ) :
    Except Failure Resolution × σ :=
  let settings := engine.settingsIn request.env
  if settings.enabled then
    let candidates := Exclusion.distinct request.candidates
    let exclusions := Exclusion.collect request.exclude request.excludeNames request.env
    let invalid := Exclusion.invalid candidates exclusions engine.oracle settings.policy
    if invalid.isEmpty then
      engine.resolveDistinct host settings request.env candidates exclusions state
    else (.error (.invalidExclusions invalid), state)
  else (.ok .switchedOff, state)

end Engine
end Activation
