import Activation.Bean.Query
import Activation.Environment.Query
import Activation.Symbol
import Activation.UnitName
import Activation.Web

/-!
# Rules

A rule is one condition that a unit declares.  Before any rule of a unit is
evaluated, all of them are checked for faults: a rule that asks for nothing is a
mistake in the declaration, and the first one at fault aborts the pass.

What a rule may look at while it is evaluated is its context: the application, which
has the oracle and the web stack, the registry as it is at that moment, and the
environment.  A context made from an oracle has the web stack that follows from it.
-/

namespace Activation

/-- A declared condition. -/
inductive Rule where
  /-- Every symbol is there. -/
  | requiresSymbols (symbols : List Symbol)
  /-- No symbol is there. -/
  | forbidsSymbols (symbols : List Symbol)
  /-- There is a bean for every criterion. -/
  | requiresBeans (query : BeanQuery)
  /-- The beans for the criteria single out a candidate. -/
  | requiresSingleBean (query : BeanQuery)
  /-- There is a bean for no criterion. -/
  | forbidsBeans (query : BeanQuery)
  /-- The properties have the expected value. -/
  | requiresProperties (query : PropertyQuery)
  /-- The web stack meets a need. -/
  | requiresWeb (need : WebNeed)
  deriving DecidableEq, Repr

/-- What is wrong with a rule. -/
inductive Fault where
  /-- There is no symbol that is not blank. -/
  | noSymbol
  /-- There is no criterion. -/
  | noCriterion
  /-- There is not exactly one type that tells candidates apart. -/
  | notOneType (types : List String)
  /-- There is no property name that is not blank. -/
  | noProperty
  deriving DecidableEq, Repr

/-- A fault in words. -/
def Fault.reason : Fault → String
  | noSymbol => "at least one symbol must be specified"
  | noCriterion => "no bean type, name or annotation specified"
  | notOneType types =>
    "exactly one type must be specified (got [" ++ ", ".intercalate types ++ "])"
  | noProperty => "at least one property name must be specified"

/-- A rule at fault, with the unit that declares it. -/
structure Malformed where
  /-- The unit. -/
  unit : UnitName
  /-- The kind of the rule. -/
  kind : Kind
  /-- What is wrong with it. -/
  fault : Fault
  deriving DecidableEq, Repr

/-- What is said about a rule at fault. -/
def Malformed.message (problem : Malformed) : String :=
  "Malformed " ++ problem.kind.name ++ " declaration on " ++ problem.unit ++ ": " ++
    problem.fault.reason

/-- What a rule may look at. -/
structure Context extends Application where
  /-- The beans registered so far. -/
  registry : Registry
  /-- The properties. -/
  env : Environment

namespace Rule

/-- The kind of a rule. -/
def kind : Rule → Kind
  | requiresSymbols _ => .onClass
  | forbidsSymbols _ => .onMissingClass
  | requiresBeans _ => .onBean
  | requiresSingleBean _ => .onSingleCandidate
  | forbidsBeans _ => .onMissingBean
  | requiresProperties _ => .onProperty
  | requiresWeb _ => .onWebApplication

/-- What is wrong with a list of symbols, if anything is. -/
def symbolFault? (symbols : List Symbol) : Option Fault :=
  if symbols.all Text.isBlankText then some .noSymbol else none

/-- What is wrong with a query for beans, if anything is. -/
def beanFault? (query : BeanQuery) : Option Fault :=
  if query.isEmpty then some .noCriterion else none

/-- What is wrong with a query that should single out a bean, if anything is. -/
def singleFault? (query : BeanQuery) : Option Fault :=
  if query.isEmpty then some .noCriterion
  else if query.candidateTypes.length = 1 then none
  else some (.notOneType query.candidateTypes)

/-- What is wrong with a query for properties, if anything is. -/
def propertyFault? (query : PropertyQuery) : Option Fault :=
  if query.names.all Text.isBlankText then some .noProperty else none

/-- What is wrong with a rule, if anything is. -/
def fault? : Rule → Option Fault
  | requiresSymbols symbols | forbidsSymbols symbols => symbolFault? symbols
  | requiresBeans query | forbidsBeans query => beanFault? query
  | requiresSingleBean query => singleFault? query
  | requiresProperties query => propertyFault? query
  | requiresWeb _ => none

/-- A rule of a unit as a declaration at fault, if it is one. -/
def malformed? (unit : UnitName) (rule : Rule) : Option Malformed :=
  rule.fault?.map fun fault => ⟨unit, rule.kind, fault⟩

/-- What symbols that should not be there are called. -/
def unwantedClass : Noun := ⟨"unwanted class", "unwanted classes"⟩

/-- The outcome of the condition that every symbol is there. -/
def evaluateRequired (symbols : List Symbol) (oracle : Oracle) : Outcome :=
  let missing := oracle.missing symbols
  if missing.isEmpty then
    .pass .onClass (.about .onClass (.found Oracle.requiredClass .quoted symbols))
  else
    .fail .onClass (.about .onClass (.didNotFind Oracle.requiredClass .quoted missing))

/-- The outcome of the condition that no symbol is there. -/
def evaluateForbidden (symbols : List Symbol) (oracle : Oracle) : Outcome :=
  let present := oracle.present symbols
  if present.isEmpty then
    .pass .onMissingClass (.about .onMissingClass (.didNotFind unwantedClass .quoted symbols))
  else
    .fail .onMissingClass (.about .onMissingClass (.found unwantedClass .quoted present))

/-- The outcome of a rule. -/
def evaluate (context : Context) : Rule → Outcome
  | requiresSymbols symbols => evaluateRequired symbols context.oracle
  | forbidsSymbols symbols => evaluateForbidden symbols context.oracle
  | requiresBeans query => query.evaluatePresent context.registry
  | requiresSingleBean query => query.evaluateSingle context.registry
  | forbidsBeans query => query.evaluateAbsent context.registry
  | requiresProperties query => query.evaluate context.env
  | requiresWeb need => need.evaluate context.stack

end Rule
end Activation
