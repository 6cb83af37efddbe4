import Activation.Metadata
import Activation.Prefilter.ForkJoin
import Activation.Web

/-!
# The pre-filter

Before any unit is evaluated in full, candidates that cannot succeed are sorted
out by what the metadata index says of them.  A filter asks the index and the
oracle about one unit and gives an outcome against it or none; it never looks at
the registry.  There are three of them and no more: an engine may chain them in any
order and as often as it likes, but a host cannot add a filter of its own, and what
holds of every chain holds of the chains of these.

Filters are applied one after the other.  Each candidate stands in a slot, which
the first outcome against it closes; a closed slot keeps its candidate and that
outcome, and later filters do not see it.  So the candidates stay in order, and
in the end every one of them is either a survivor or rejected with a reason.
-/

namespace Activation

/-- A way to sort out candidates.  This is a closed list: no host can add a filter to it. -/
inductive Filter where
  /-- A required symbol is not there.  The work is shared as the mode says. -/
  | symbols (mode : PrefilterMode)
  /-- A required type of bean is not even there as a symbol. -/
  | beanTypes
  /-- The required web stack is not possible. -/
  | webStack
  deriving DecidableEq, Repr

namespace Filter

/-- The name of a filter. -/
def name : Filter → String
  | symbols _ => "OnClassFilter"
  | beanTypes => "OnBeanTypeFilter"
  | webStack => "OnWebApplicationFilter"

/-- The outcome about the symbols that the index lists for a unit. -/
def symbolOutcome? (index : Metadata) (oracle : Oracle) (unit : UnitName) : Option Outcome :=
  (index.condition? unit .onClass).bind fun value => oracle.firstMissing? (Text.items value)

/-- What types that are not there are called. -/
def requiredType : Noun := ⟨"required type", "required types"⟩

/-- The outcome about the types that the index lists for a unit under one kind. -/
def typeOutcome? (index : Metadata) (oracle : Oracle) (kind : Kind) (unit : UnitName) :
    Option Outcome :=
  (index.items? unit kind.name).bind fun types =>
    let missing := oracle.missing types
    if missing.isEmpty then none
    else some (.fail kind (.about kind (.didNotFind requiredType .quoted missing)))

/-- The outcome about the types of beans that the index lists for a unit. -/
def beanOutcome? (index : Metadata) (oracle : Oracle) (unit : UnitName) : Option Outcome :=
  (typeOutcome? index oracle .onBean unit).or (typeOutcome? index oracle .onSingleCandidate unit)

/-- The outcome about the web stack that the index states for a unit; a text that
states none asks for any. -/
def webOutcome? (index : Metadata) (oracle : Oracle) (unit : UnitName) : Option Outcome :=
  (index.condition? unit .onWebApplication).bind fun value =>
    ((WebNeed.read? value).getD .any).unavailable? oracle

/-- The outcome that a filter gives about a unit by itself. -/
def outcome? (index : Metadata) (oracle : Oracle) : Filter → UnitName → Option Outcome
  | symbols _ => symbolOutcome? index oracle
  | beanTypes => beanOutcome? index oracle
  | webStack => webOutcome? index oracle

/-- The outcomes that a filter gives for a list of slots, closed ones being empty. -/
def outcomes (filter : Filter) (machine : Machine) (index : Metadata) (oracle : Oracle)
    (slots : List (Option UnitName)) : List (Option Outcome) :=
  let answer : List (Option UnitName) → List (Option Outcome) :=
    List.map fun slot => slot.bind (filter.outcome? index oracle)
  match filter with
  | symbols mode => machine.workOut mode answer slots
  | beanTypes | webStack => answer slots

end Filter

/-- A candidate, with the outcome against it if there is one.

The slots stand for two lists that are kept side by side: the candidates still open, each at
its place, with a gap where one has been closed, and the outcomes against the closed ones,
each noted with the place of its candidate.  `Slot.open?` reads the first, `Slot.closed?` the
second.  As an outcome stays in the slot of its candidate, the second comes out by places,
however late a filter closed the slot, and need not be sorted at the end. -/
structure Slot where
  /-- The candidate. -/
  unit : UnitName
  /-- The outcome that closed the slot. -/
  against : Option Outcome := none
  deriving DecidableEq, Repr

namespace Slot

/-- The candidate of a slot that is open. -/
def open? (slot : Slot) : Option UnitName :=
  match slot.against with
  | none => some slot.unit
  | some _ => none

/-- The candidate of a slot that is closed, with the outcome against it. -/
def closed? (slot : Slot) : Option (UnitName × Outcome) :=
  slot.against.map fun outcome => (slot.unit, outcome)

/-- A slot after a further outcome: only an outcome that does not match closes it,
and only if it is open. -/
def meet (slot : Slot) (outcome : Option Outcome) : Slot :=
  match slot.against with
  | some _ => slot
  | none => if Outcome.allows outcome then slot else { slot with against := outcome }

end Slot

/-- Filters applied one after the other, each of them one of the three. -/
abbrev FilterChain := List Filter

namespace FilterChain

/-- The usual chain: symbols, types of beans, web stack. -/
def standard (mode : PrefilterMode) : FilterChain :=
  [.symbols mode, .beanTypes, .webStack]

/-- The slots after a filter. -/
def step (machine : Machine) (index : Metadata) (oracle : Oracle) (slots : List Slot)
    (filter : Filter) : List Slot :=
  List.zipWith Slot.meet slots (filter.outcomes machine index oracle (slots.map Slot.open?))

/-- The slots of the candidates after all filters. -/
def apply (chain : FilterChain) (machine : Machine) (index : Metadata) (oracle : Oracle)
    (candidates : List UnitName) : List Slot :=
  chain.foldl (step machine index oracle) (candidates.map fun unit => { unit })

/-- The candidates in open slots. -/
def survivors (slots : List Slot) : List UnitName :=
  slots.filterMap Slot.open?

/-- The candidates in closed slots, with the outcomes against them. -/
def rejected (slots : List Slot) : List (UnitName × Outcome) :=
  slots.filterMap Slot.closed?

end FilterChain
end Activation
