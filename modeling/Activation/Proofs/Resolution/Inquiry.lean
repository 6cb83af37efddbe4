import Activation.Proofs.Prefilter
import Activation.Proofs.Symbol.Inquiry
import Activation.Resolution

/-!
# A pass as an inquiry

A pass asks for symbols in four places: when exclusions are checked under the lenient policy,
in the pre-filter, when the web stack is deduced, and when rules about symbols are evaluated.
In each of them it asks as little as it may: the filter for symbols stops at the first symbol
that is missing, a need for a web stack asks only for the classes of the stacks, and of the
rules of a unit no group is evaluated after one with a failure.  The two halves into which the
filter for symbols may be cut ask side by side.

What is said here is which symbols are asked, and when.  What is made of the answers is what
the pass makes of an oracle (`Engine.answer_inquire`): for this it is enough that an outcome
depends on no other symbols than those that are asked.

* `Oracle.missing_congr`, `Rule.evaluateRequired_congr` and their like: outcomes depend on the
  answers for their own symbols only.
* `Engine.answer_inquire`: a pass finds out by asking what it finds out from an oracle.
-/

namespace Activation

/-! ## What outcomes depend on -/

section Congr

variable {oracle other : Oracle} {symbols : List Symbol}

theorem Oracle.missing_congr (h : ∀ symbol ∈ symbols, oracle symbol = other symbol) :
    oracle.missing symbols = other.missing symbols :=
  List.filter_congr fun symbol hs => by rw [h symbol hs]

theorem Oracle.present_congr (h : ∀ symbol ∈ symbols, oracle symbol = other symbol) :
    oracle.present symbols = other.present symbols :=
  List.filter_congr h

theorem Rule.evaluateRequired_congr (h : ∀ symbol ∈ symbols, oracle symbol = other symbol) :
    evaluateRequired symbols oracle = evaluateRequired symbols other := by
  rw [evaluateRequired, evaluateRequired, Oracle.missing_congr h]

theorem Rule.evaluateForbidden_congr (h : ∀ symbol ∈ symbols, oracle symbol = other symbol) :
    evaluateForbidden symbols oracle = evaluateForbidden symbols other := by
  rw [evaluateForbidden, evaluateForbidden, Oracle.present_congr h]

/-- The classes for which a need for a web stack asks. -/
def WebNeed.asked : List Symbol := [servletSymbol, reactiveSymbol]

theorem WebNeed.unavailable?_congr (need : WebNeed)
    (h : ∀ symbol ∈ asked, oracle symbol = other symbol) :
    need.unavailable? oracle = need.unavailable? other := by
  have hservlet := h servletSymbol (by simp [asked])
  have hreactive := h reactiveSymbol (by simp [asked])
  have hpossible : need.isPossible oracle = need.isPossible other := by
    cases need with
    | any => rw [isPossible, isPossible, hservlet, hreactive]
    | servlet => exact hservlet
    | reactive => exact hreactive
  rw [unavailable?, unavailable?, hpossible]

/-- The exclusions that name no candidate. -/
def Exclusion.unmatched (candidates exclusions : List UnitName) : List UnitName :=
  exclusions.filter fun unit => !candidates.contains unit

theorem Exclusion.invalid_eq (candidates exclusions : List UnitName) (oracle : Oracle)
    (policy : ExclusionPolicy) :
    invalid candidates exclusions oracle policy =
      (unmatched candidates exclusions).filter (policy.forbids oracle) := by
  rw [invalid, unmatched, List.filter_filter]
  exact List.filter_congr fun unit _ => Bool.and_comm _ _

end Congr

/-! ## The places where a pass asks -/

open Inquiry

/-- The exclusions that are errors.  Only under the lenient policy is anything asked. -/
def Exclusion.inquire (candidates exclusions : List UnitName) :
    ExclusionPolicy → Inquiry (List UnitName)
  | .strict => pure (unmatched candidates exclusions)
  | .lenient => do
    let known ← survey (unmatched candidates exclusions)
    pure (known.present (unmatched candidates exclusions))

/-- The web stack that the symbols of a build make. -/
def WebStack.inquire : Inquiry WebStack := do
  if ← (isThere dispatcherHandler).andThen
      (((! ·) <$> isThere dispatcherServlet).andThen ((! ·) <$> isThere servletContainer)) then
    pure reactive
  else
    let missing ← firstMissing servletIndicators
    pure (if missing.isNone then servlet else absent)

namespace Filter

/-- The outcome about the types that the index lists for a unit under one kind. -/
def inquireTypes (index : Metadata) (kind : Kind) (unit : UnitName) : Inquiry (Option Outcome) :=
  match index.items? unit kind.name with
  | none => pure none
  | some types => do
    let known ← survey types
    pure (typeOutcome? index known kind unit)

/-- The outcome that a filter gives about a unit. -/
def inquireUnit (index : Metadata) : Filter → UnitName → Inquiry (Option Outcome)
  | symbols _, unit =>
    match index.condition? unit .onClass with
    | none => pure none
    | some value => do
      let missing ← firstMissing (Text.items value)
      pure (missing.map Oracle.missingOutcome)
  | beanTypes, unit => do
    match ← inquireTypes index .onBean unit with
    | some outcome => pure (some outcome)
    | none => inquireTypes index .onSingleCandidate unit
  | webStack, unit =>
    match index.condition? unit .onWebApplication with
    | none => pure none
    | some value => do
      let known ← survey WebNeed.asked
      pure (((WebNeed.read? value).getD .any).unavailable? known)

/-- The outcomes that a filter gives for a list of slots; a closed one is not asked about. -/
def inquireSlots (filter : Filter) (index : Metadata) :
    List (Option UnitName) → Inquiry (List (Option Outcome)) :=
  each fun slot =>
    match slot with
    | none => pure none
    | some unit => filter.inquireUnit index unit

/-- The outcomes that a filter gives, those of the filter for symbols perhaps in two halves. -/
def inquire (filter : Filter) (machine : Machine) (index : Metadata)
    (slots : List (Option UnitName)) : Inquiry (List (Option Outcome)) :=
  match filter with
  | symbols mode =>
    if machine.cuts mode then
      both (filter.inquireSlots index (slots.take (slots.length / 2)))
        (filter.inquireSlots index (slots.drop (slots.length / 2)))
        fun first second => pure (first ++ second)
    else filter.inquireSlots index slots
  | beanTypes | webStack => filter.inquireSlots index slots

end Filter

/-- The slots after all filters of a chain. -/
def FilterChain.inquire (machine : Machine) (index : Metadata) :
    FilterChain → List Slot → Inquiry (List Slot)
  | [], slots => pure slots
  | filter :: chain, slots => do
    let outcomes ← filter.inquire machine index (slots.map Slot.open?)
    inquire machine index chain (List.zipWith Slot.meet slots outcomes)

/-- The outcome of a rule, when the web stack has been deduced. -/
def Rule.inquire (stack : WebStack) (registry : Registry) (env : Environment) :
    Rule → Inquiry Outcome
  | requiresSymbols symbols => return evaluateRequired symbols (← survey symbols)
  | forbidsSymbols symbols => return evaluateForbidden symbols (← survey symbols)
  | requiresBeans query => pure (query.evaluatePresent registry)
  | requiresSingleBean query => pure (query.evaluateSingle registry)
  | forbidsBeans query => pure (query.evaluateAbsent registry)
  | requiresProperties query => pure (query.evaluate env)
  | requiresWeb need => pure (need.evaluate stack)

/-- The verdict on groups of rules; nothing is asked after a group with a failure. -/
def Verdict.inquire (outcome : Rule → Inquiry Outcome) : List (List Rule) → Inquiry Verdict
  | [] => pure ⟨true, []⟩
  | group :: groups => do
    let outcomes ← each outcome group
    if outcomes.all Outcome.matched then
      let rest ← inquire outcome groups
      pure ⟨rest.matched, outcomes ++ rest.outcomes⟩
    else pure ⟨false, outcomes⟩

namespace Decision

/-- What is decided about a unit with a given definition.  Nothing is asked about a unit with
a rule at fault. -/
def inquire (stack : WebStack) (registry : Registry) (env : Environment) (unit : UnitName) :
    Option Definition → Inquiry (Except Malformed Decision)
  | none => pure (.ok unconditional)
  | some definition =>
    if definition.isUnconditional then pure (.ok unconditional)
    else
      match definition.rules.findSome? (Rule.malformed? unit) with
      | some problem => pure (.error problem)
      | none => do
        let verdict ← Verdict.inquire (Rule.inquire stack registry env)
          (Verdict.grouped definition.rules)
        pure (.ok (judged verdict))

/-- The decisions about units, in order, and the state of the host afterwards. -/
def inquireEach {σ : Type} (host : Host σ) (stack : WebStack) (catalog : Catalog)
    (env : Environment) (state : σ) :
    List UnitName → Inquiry (Except Malformed (List (UnitName × Decision)) × σ)
  | [] => pure (.ok [], state)
  | unit :: units => do
    match ← inquire stack (host.registry state) env unit catalog[unit]? with
    | .error problem => pure (.error problem, state)
    | .ok decision =>
      let (rest, state) ← inquireEach host stack catalog env
        (host.afterDecision catalog state unit decision) units
      pure (rest.map fun decisions => (unit, decision) :: decisions, state)

end Decision

namespace Engine

/-- The end of a pass, when the decisions have been made. -/
def conclude {σ : Type} (engine : Engine) (candidates exclusions : List UnitName)
    (slots : List Slot) :
    Except Malformed (List (UnitName × Decision)) × σ → Except Failure Resolution × σ
  | (.error problem, state) => (.error (.malformed problem), state)
  | (.ok decisions, state) =>
    let result := (Order.arrange engine.index engine.catalog (acceptedIn decisions)).map
      fun accepted =>
        { accepted
          rejected := rejectedIn (FilterChain.rejected slots) decisions
          excluded := Exclusion.excluded candidates exclusions
          report := reportOn exclusions (FilterChain.rejected slots) decisions }
    (result, state)

/-- **A pass as an inquiry.**  The oracle of the engine is not looked at. -/
def inquire {σ : Type} (engine : Engine) (host : Host σ) (request : Request) (state : σ) :
    Inquiry (Except Failure Resolution × σ) :=
  let settings := engine.settingsIn request.env
  if settings.enabled then do
    let candidates := Exclusion.distinct request.candidates
    let exclusions := Exclusion.collect request.exclude request.excludeNames request.env
    let invalid ← Exclusion.inquire candidates exclusions settings.policy
    if invalid.isEmpty then
      let slots ← FilterChain.inquire engine.machine engine.index (engine.chain settings)
        ((Exclusion.kept candidates exclusions).map fun unit => { unit })
      let stack ← WebStack.inquire
      let decided ← Decision.inquireEach host stack engine.catalog request.env state
        (FilterChain.survivors slots)
      pure (engine.conclude candidates exclusions slots decided)
    else pure (.error (.invalidExclusions invalid), state)
  else pure (.ok .switchedOff, state)

/-- An engine with another oracle. -/
def withOracle (engine : Engine) (oracle : Oracle) : Engine :=
  { engine with oracle }

end Engine

/-! ## What is made of the answers -/

variable (oracle : Oracle)

theorem Exclusion.answer_inquire (candidates exclusions : List UnitName)
    (policy : ExclusionPolicy) :
    (inquire candidates exclusions policy).answer oracle =
      invalid candidates exclusions oracle policy := by
  rw [invalid_eq]
  cases policy with
  | strict => exact (List.filter_eq_self.mpr fun _ _ => rfl).symm
  | lenient =>
    rw [inquire, answer_bind, answer_pure]
    exact Oracle.present_congr fun symbol hs => answer_survey hs

/-- All symbols are there if none is the first that is missing. -/
theorem Oracle.isNone_find? (symbols : List Symbol) :
    (symbols.find? fun symbol => !oracle symbol).isNone = symbols.all oracle := by
  rw [Bool.eq_iff_iff, Option.isNone_iff_eq_none, List.find?_eq_none, List.all_eq_true]
  simp

theorem WebStack.answer_inquire : inquire.answer oracle = deduce oracle := by
  rw [inquire, answer_bind, answer_andThen, answer_andThen, answer_map, answer_map,
    answer_isThere, answer_isThere, answer_isThere, deduce, Bool.and_assoc]
  split
  · rfl
  · rw [answer_bind, answer_pure, answer_firstMissing, Oracle.isNone_find?]

namespace Filter

variable (index : Metadata)

theorem answer_inquireTypes (kind : Kind) (unit : UnitName) :
    (inquireTypes index kind unit).answer oracle = typeOutcome? index oracle kind unit := by
  rw [inquireTypes]
  cases htypes : index.items? unit kind.name with
  | none => rw [typeOutcome?, htypes]; rfl
  | some types =>
    have hmissing : Oracle.missing ((survey types).answer oracle) types = oracle.missing types :=
      Oracle.missing_congr fun symbol hs => answer_survey hs
    rw [answer_bind, answer_pure, typeOutcome?, typeOutcome?, htypes, Option.bind_some,
      Option.bind_some, hmissing]

theorem answer_inquireUnit (filter : Filter) (unit : UnitName) :
    (filter.inquireUnit index unit).answer oracle = filter.outcome? index oracle unit := by
  cases filter with
  | symbols mode =>
    rw [inquireUnit, outcome?, symbolOutcome?]
    cases index.condition? unit .onClass with
    | none => rfl
    | some value =>
      rw [answer_bind, answer_pure, answer_firstMissing, Option.bind_some, Oracle.firstMissing?]
  | beanTypes =>
    rw [inquireUnit, answer_bind, answer_inquireTypes, outcome?, beanOutcome?]
    cases typeOutcome? index oracle .onBean unit with
    | some outcome => rfl
    | none => exact answer_inquireTypes oracle index .onSingleCandidate unit
  | webStack =>
    rw [inquireUnit, outcome?, webOutcome?]
    cases index.condition? unit .onWebApplication with
    | none => rfl
    | some value =>
      rw [answer_bind, answer_pure, Option.bind_some]
      exact WebNeed.unavailable?_congr _ fun symbol hs => answer_survey hs

theorem answer_inquireSlots (filter : Filter) (slots : List (Option UnitName)) :
    (filter.inquireSlots index slots).answer oracle =
      slots.map fun slot => slot.bind (filter.outcome? index oracle) := by
  rw [inquireSlots, answer_each]
  refine List.map_congr_left fun slot _ => ?_
  cases slot with
  | none => rfl
  | some unit => exact answer_inquireUnit oracle index filter unit

theorem answer_inquire (filter : Filter) (machine : Machine) (slots : List (Option UnitName)) :
    (filter.inquire machine index slots).answer oracle =
      filter.outcomes machine index oracle slots := by
  have hall := answer_inquireSlots oracle index filter
  rw [outcomes_eq_map]
  cases filter with
  | symbols mode =>
    rw [inquire]
    split
    · -- the answers to two halves are the answers to the whole
      rw [answer, hall, hall, answer_pure, ← List.map_append, List.take_append_drop]
    · exact hall slots
  | beanTypes => exact hall slots
  | webStack => exact hall slots

end Filter

theorem FilterChain.answer_inquire (machine : Machine) (index : Metadata) (chain : FilterChain)
    (slots : List Slot) : (inquire machine index chain slots).answer oracle =
      chain.foldl (step machine index oracle) slots := by
  induction chain generalizing slots with
  | nil => rfl
  | cons filter chain ih =>
    rw [inquire, answer_bind, ih, Filter.answer_inquire, List.foldl_cons, step]

section Evaluation

variable (registry : Registry) (env : Environment)

theorem Rule.answer_inquire (rule : Rule) :
    (rule.inquire (.deduce oracle) registry env).answer oracle =
      rule.evaluate ⟨oracle, registry, env⟩ := by
  cases rule with
  | requiresSymbols symbols =>
    rw [inquire, answer_bind, answer_pure]
    exact evaluateRequired_congr fun symbol hs => answer_survey hs
  | forbidsSymbols symbols =>
    rw [inquire, answer_bind, answer_pure]
    exact evaluateForbidden_congr fun symbol hs => answer_survey hs
  | _ => rfl

theorem Verdict.answer_inquire (outcome : Rule → Inquiry Outcome) (groups : List (List Rule)) :
    (inquire outcome groups).answer oracle =
      ofGroups (groups.map fun group => group.map fun rule => (outcome rule).answer oracle) := by
  induction groups with
  | nil => rfl
  | cons group groups ih =>
    rw [inquire, answer_bind, answer_each, List.map_cons, ofGroups]
    split
    · rw [answer_bind, answer_pure, ih]
    · rfl

theorem Decision.answer_inquire (unit : UnitName) (definition : Option Definition) :
    (inquire (.deduce oracle) registry env unit definition).answer oracle =
      ofDefinition ⟨oracle, registry, env⟩ unit definition := by
  cases definition with
  | none => rfl
  | some definition =>
    rw [inquire, ofDefinition, Verdict.ofUnit]
    split
    · rfl
    · cases definition.rules.findSome? (Rule.malformed? unit) with
      | some problem => rfl
      | none =>
        rw [answer_bind, answer_pure, Verdict.answer_inquire]
        simp only [Rule.answer_inquire]
        rfl

theorem Decision.answer_inquireEach {σ : Type} (host : Host σ) (catalog : Catalog) (state : σ)
    (units : List UnitName) :
    (inquireEach host (.deduce oracle) catalog env state units).answer oracle =
      forEach host oracle catalog env state units := by
  induction units generalizing state with
  | nil => rfl
  | cons unit units ih =>
    rw [inquireEach, answer_bind, answer_inquire, forEach, Host.context]
    cases ofDefinition ⟨oracle, host.registry state, env⟩ unit catalog[unit]? with
    | error problem => rfl
    | ok decision => simp only [answer_bind, answer_pure, ih]

end Evaluation

namespace Engine

variable {σ : Type} (engine : Engine) (host : Host σ)

/-- A pass over distinct candidates comes to its end when the decisions have been made. -/
theorem resolveDistinct_eq_conclude (settings : Settings) (env : Environment)
    (candidates exclusions : List UnitName) (state : σ) :
    engine.resolveDistinct host settings env candidates exclusions state =
      engine.conclude candidates exclusions
        (engine.prefilter settings (Exclusion.kept candidates exclusions))
        (Decision.forEach host engine.oracle engine.catalog env state (FilterChain.survivors
          (engine.prefilter settings (Exclusion.kept candidates exclusions)))) := by
  rw [resolveDistinct]
  obtain ⟨_ | _, _⟩ := Decision.forEach host engine.oracle engine.catalog env state
    (FilterChain.survivors (engine.prefilter settings (Exclusion.kept candidates exclusions)))
  · rfl
  · rfl

/-- **A pass that asks** finds out, from the answers of an oracle, what it finds out with that
oracle. -/
theorem answer_inquire (request : Request) (state : σ) :
    (engine.inquire host request state).answer oracle =
      (engine.withOracle oracle).resolve host request state := by
  have hsettings : (engine.withOracle oracle).settingsIn request.env =
      engine.settingsIn request.env := rfl
  have horacle : (engine.withOracle oracle).oracle = oracle := rfl
  rw [inquire, resolve]
  dsimp only
  rw [hsettings, horacle]
  split
  · rw [answer_bind, Exclusion.answer_inquire]
    split
    · rw [answer_bind, answer_bind, answer_bind, answer_pure, FilterChain.answer_inquire,
        WebStack.answer_inquire, Decision.answer_inquireEach, resolveDistinct_eq_conclude]
      rfl
    · rfl
  · rfl

end Engine
end Activation
