import Activation.Message

/-!
# Outcomes

The outcome of a condition: whether it matched, of what kind it is, and why.
Where a filter may have no opinion, it gives no outcome, and no outcome counts as
a match.
-/

namespace Activation

/-- The outcome of one condition for one unit. -/
structure Outcome where
  /-- Whether the condition holds. -/
  matched : Bool
  /-- The kind of the condition. -/
  kind : Kind
  /-- Why it holds or does not. -/
  message : Message
  deriving DecidableEq, Repr

/-- Lists of outcomes are compared outcome by outcome. -/
instance : LawfulBEq (List Outcome) := inferInstance

namespace Outcome

/-- The outcome of a condition that holds. -/
def pass (kind : Kind) (message : Message) : Outcome :=
  ⟨true, kind, message⟩

/-- The outcome of a condition that does not hold. -/
def fail (kind : Kind) (message : Message) : Outcome :=
  ⟨false, kind, message⟩

/-- Whether nothing speaks against a unit: there is no outcome, or it is a match. -/
def allows : Option Outcome → Bool
  | none => true
  | some outcome => outcome.matched

/-- An outcome as one sentence. -/
def describe (outcome : Outcome) : String :=
  let verdict := if outcome.matched then " matched" else " did not match"
  let reason := if outcome.message.isEmpty then "" else " due to " ++ outcome.message.text
  outcome.kind.name ++ verdict ++ reason

end Outcome
end Activation
