/-!
# The kinds of conditions

A unit is activated by conditions of seven kinds.  A kind has two spellings: the
word used in written rules, such as `on-class`, and the longer name used by the
metadata index and in messages, such as `ConditionalOnClass`.

Within one unit, conditions are evaluated kind by kind in the order of `byRank`:
first the symbols, which cost least, then the web stack and the properties, and
last the beans, whose answer depends on what has been registered so far.
-/

namespace Activation

/-- The kinds of conditions. -/
inductive Kind where
  /-- All listed symbols are present. -/
  | onClass
  /-- No listed symbol is present. -/
  | onMissingClass
  /-- There is a bean for every criterion. -/
  | onBean
  /-- There is one candidate among the beans for the criteria. -/
  | onSingleCandidate
  /-- There is no bean for any criterion. -/
  | onMissingBean
  /-- The properties have the right values. -/
  | onProperty
  /-- The application has the right web stack. -/
  | onWebApplication
  deriving DecidableEq, Repr

namespace Kind

/-- Every kind, in the order in which they are declared. -/
def all : List Kind :=
  [onClass, onMissingClass, onBean, onSingleCandidate, onMissingBean, onProperty,
    onWebApplication]

/-- Every kind, in the order in which the conditions of a unit are evaluated. -/
def byRank : List Kind :=
  [onClass, onMissingClass, onWebApplication, onProperty, onBean, onSingleCandidate,
    onMissingBean]

/-- The place of a kind in the order of evaluation. -/
def rank : Kind → Nat
  | onClass => 0
  | onMissingClass => 1
  | onWebApplication => 2
  | onProperty => 3
  | onBean => 4
  | onSingleCandidate => 5
  | onMissingBean => 6

/-- The word for a kind in written rules. -/
def word : Kind → String
  | onClass => "on-class"
  | onMissingClass => "on-missing-class"
  | onBean => "on-bean"
  | onSingleCandidate => "on-single-candidate"
  | onMissingBean => "on-missing-bean"
  | onProperty => "on-property"
  | onWebApplication => "on-web-application"

/-- The name of a kind in the metadata index and in messages. -/
def name : Kind → String
  | onClass => "ConditionalOnClass"
  | onMissingClass => "ConditionalOnMissingClass"
  | onBean => "ConditionalOnBean"
  | onSingleCandidate => "ConditionalOnSingleCandidate"
  | onMissingBean => "ConditionalOnMissingBean"
  | onProperty => "ConditionalOnProperty"
  | onWebApplication => "ConditionalOnWebApplication"

/-- The name of a kind as the subject of a message. -/
def label (kind : Kind) : String :=
  "@" ++ kind.name

/-- Whether the answer depends on the beans registered so far. -/
def readsRegistry : Kind → Bool
  | onBean | onSingleCandidate | onMissingBean => true
  | _ => false

/-- The kind with a given word. -/
def ofWord? (word : String) : Option Kind :=
  all.find? (·.word == word)

/-- The kind with a given name, spelled exactly. -/
def ofName? (name : String) : Option Kind :=
  all.find? (·.name == name)

/-- What is said about a name that no kind has. -/
def unknownName (name : String) : String :=
  "Unknown condition kind: " ++ name

@[simp] theorem ofWord?_word (kind : Kind) : ofWord? kind.word = some kind := by
  cases kind <;> decide

@[simp] theorem ofName?_name (kind : Kind) : ofName? kind.name = some kind := by
  cases kind <;> decide

theorem mem_byRank (kind : Kind) : kind ∈ byRank := by
  cases kind <;> decide

/-- A kind stands in `byRank` at its rank. -/
theorem byRank_getElem?_rank (kind : Kind) : byRank[kind.rank]? = some kind := by
  cases kind <;> rfl

end Kind
end Activation
