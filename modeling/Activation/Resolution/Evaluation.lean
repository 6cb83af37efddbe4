import Activation.Resolution.Host
import Activation.Rule.Verdict

/-!
# Evaluating the candidates

The candidates that are left after the pre-filter are evaluated one after the
other.  A unit without a definition, or whose definition has no conditions, is
accepted as it is; any other unit is accepted if its verdict is a match.  The
host is told of an accepted unit before the next one is evaluated.

A rule at fault ends the evaluation.  What the host has done until then stays.
-/

namespace Activation

/-- What was decided about a unit. -/
inductive Decision where
  /-- It has no conditions, and so it is accepted. -/
  | unconditional
  /-- It has conditions, with a verdict on them. -/
  | judged (verdict : Verdict)
  deriving DecidableEq, Repr

namespace Decision

/-- Whether the unit is accepted. -/
def isAccepted : Decision → Bool
  | unconditional => true
  | judged verdict => verdict.matched

/-- The outcomes against the unit, if it is not accepted. -/
def against? : Decision → Option (List Outcome)
  | unconditional => none
  | judged verdict => if verdict.matched then none else some verdict.outcomes

/-- What is decided about a unit with a given definition. -/
def ofDefinition (context : Context) (unit : UnitName) :
    Option Definition → Except Malformed Decision
  | none => .ok unconditional
  | some definition =>
    if definition.isUnconditional then .ok unconditional
    else (Verdict.ofUnit unit definition.rules context).map judged

end Decision

/-- What the conditions of a pass can look at when the host is in a given state. -/
def Host.context {σ : Type} (host : Host σ) (oracle : Oracle) (env : Environment) (state : σ) :
    Context :=
  ⟨oracle, host.registry state, env⟩

/-- The state of a host after a decision. -/
def Host.afterDecision {σ : Type} (host : Host σ) (catalog : Catalog) (state : σ)
    (unit : UnitName) (decision : Decision) : σ :=
  if decision.isAccepted then host.accept state unit catalog[unit]? else state

/-- The decisions about units, in order, and the state of the host afterwards. -/
def Decision.forEach {σ : Type} (host : Host σ) (oracle : Oracle) (catalog : Catalog)
    (env : Environment) (state : σ) :
    List UnitName → Except Malformed (List (UnitName × Decision)) × σ
  | [] => (.ok [], state)
  | unit :: units =>
    match Decision.ofDefinition (host.context oracle env state) unit catalog[unit]? with
    | .error problem => (.error problem, state)
    | .ok decision =>
      let state := host.afterDecision catalog state unit decision
      let (rest, state) := Decision.forEach host oracle catalog env state units
      (rest.map fun decisions => (unit, decision) :: decisions, state)

end Activation
