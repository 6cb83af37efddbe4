import Activation.Proofs.Symbol.Memo

/-!
# Inquiries

An inquiry is what asks for symbols one after the other and finds something out.  Which
symbol it asks next may depend on the answers that it has got, and it may stop early.  It may
also be cut in two halves that ask side by side and are put together when both are done.

An inquiry is put either to an oracle, which fixes the answer and the symbols that are asked,
or to a memo, step by step.  The two halves of a cut share the memo, and their steps may come
in any order; they may even get in each other's way, when one of them has looked for a symbol
in vain and the other notes it in the meantime.  None of this can be seen in the end.

* `Inquiry.answer`, `Inquiry.asked`: what the oracle makes of an inquiry.
* `Inquiry.Step`, `Inquiry.Yields`: how an inquiry proceeds with a memo, and to what end.
* `Inquiry.Step.answer_eq`, `Inquiry.Step.learn_asked_eq`: what a step leaves as it was.
* `Inquiry.Step.length_eq`: a step brings the end nearer.
* `Inquiry.yields_iff`: an inquiry that is put to a memo comes to an end however it proceeds,
  with the answer of the oracle, and the memo has learned just the symbols that are asked.
-/

namespace Activation

/-- What asks for symbols and finds out a value. -/
inductive Inquiry : Type → Type 1 where
  /-- Nothing is left to ask. -/
  | done {α : Type} (value : α) : Inquiry α
  /-- A symbol is asked, and the answer says how to go on. -/
  | ask {α : Type} (symbol : Symbol) (next : Bool → Inquiry α) : Inquiry α
  /-- Two inquiries are made side by side, and their values say how to go on. -/
  | both {α β γ : Type} (first : Inquiry β) (second : Inquiry γ) (next : β → γ → Inquiry α) :
      Inquiry α

namespace Inquiry

variable {α β γ : Type}

/-- What an inquiry finds out if an oracle answers it. -/
def answer (oracle : Oracle) {α : Type} : Inquiry α → α
  | done value => value
  | ask symbol next => (next (oracle symbol)).answer oracle
  | both first second next =>
    (next (first.answer oracle) (second.answer oracle)).answer oracle

/-- The symbols that are asked in an inquiry if an oracle answers it. -/
def asked (oracle : Oracle) {α : Type} : Inquiry α → List Symbol
  | done _ => []
  | ask symbol next => symbol :: (next (oracle symbol)).asked oracle
  | both first second next =>
    first.asked oracle ++ second.asked oracle ++
      (next (first.answer oracle) (second.answer oracle)).asked oracle

/-- The number of steps in an inquiry if an oracle answers it. -/
def length (oracle : Oracle) {α : Type} : Inquiry α → Nat
  | done _ => 0
  | ask symbol next => (next (oracle symbol)).length oracle + 1
  | both first second next =>
    first.length oracle + second.length oracle +
      (next (first.answer oracle) (second.answer oracle)).length oracle + 1

/-- An inquiry followed by another that depends on what was found out. -/
def bind {α β : Type} : Inquiry α → (α → Inquiry β) → Inquiry β
  | done value, after => after value
  | ask symbol next, after => ask symbol fun there => (next there).bind after
  | both first second next, after => both first second fun b c => (next b c).bind after

instance : Monad Inquiry where
  pure := done
  bind := bind

@[simp] theorem answer_pure (oracle : Oracle) (value : α) :
    (pure value : Inquiry α).answer oracle = value := rfl

@[simp] theorem answer_ask (oracle : Oracle) (symbol : Symbol) (next : Bool → Inquiry α) :
    (ask symbol next).answer oracle = (next (oracle symbol)).answer oracle := rfl

/-- Inquiries that follow each other are answered one after the other. -/
@[simp] theorem answer_bind (oracle : Oracle) (inquiry : Inquiry α) (after : α → Inquiry β) :
    (inquiry >>= after).answer oracle = (after (inquiry.answer oracle)).answer oracle := by
  change (inquiry.bind after).answer oracle = _
  induction inquiry with
  | done value => rfl
  | ask symbol next ih => exact ih _ _
  | both first second next _ _ ih => exact ih _ _ _

@[simp] theorem answer_map (oracle : Oracle) (f : α → β) (inquiry : Inquiry α) :
    (f <$> inquiry).answer oracle = f (inquiry.answer oracle) :=
  answer_bind oracle inquiry fun value => pure (f value)

/-! ## Ways to ask -/

/-- Whether a symbol is there. -/
def isThere (symbol : Symbol) : Inquiry Bool :=
  ask symbol pure

/-- Whether two things hold; the second is asked only if the first does. -/
def andThen (first second : Inquiry Bool) : Inquiry Bool := do
  if ← first then second else pure false

/-- Every symbol is asked, and what is found out is an oracle for them. -/
def survey : List Symbol → Inquiry Oracle
  | [] => pure fun _ => false
  | symbol :: symbols => do
    let there ← isThere symbol
    let known ← survey symbols
    pure fun other => if other = symbol then there else known other

/-- The first symbol that is not there.  No symbol after it is asked. -/
def firstMissing : List Symbol → Inquiry (Option Symbol)
  | [] => pure none
  | symbol :: symbols => do
    if ← isThere symbol then firstMissing symbols else pure (some symbol)

/-- An inquiry about each item, one after the other. -/
def each (about : α → Inquiry β) : List α → Inquiry (List β)
  | [] => pure []
  | item :: items => do
    let value ← about item
    let values ← each about items
    pure (value :: values)

section Answer

variable (oracle : Oracle)

@[simp] theorem answer_isThere (symbol : Symbol) :
    (isThere symbol).answer oracle = oracle symbol := rfl

@[simp] theorem answer_andThen (first second : Inquiry Bool) :
    (first.andThen second).answer oracle = (first.answer oracle && second.answer oracle) := by
  rw [andThen, answer_bind]
  cases first.answer oracle with
  | true => rfl
  | false => rfl

variable {oracle} in
/-- A survey finds out what the oracle says of its symbols. -/
theorem answer_survey {symbols : List Symbol} {symbol : Symbol} (h : symbol ∈ symbols) :
    (survey symbols).answer oracle symbol = oracle symbol := by
  induction symbols with
  | nil => exact nomatch h
  | cons first symbols ih =>
    rw [survey, answer_bind, answer_bind, answer_pure, answer_isThere]
    by_cases he : symbol = first
    · rw [if_pos he, he]
    · rw [if_neg he, ih ((List.mem_cons.mp h).resolve_left he)]

@[simp] theorem answer_firstMissing (symbols : List Symbol) :
    (firstMissing symbols).answer oracle = symbols.find? fun symbol => !oracle symbol := by
  induction symbols with
  | nil => rfl
  | cons symbol symbols ih =>
    rw [firstMissing, answer_bind, answer_isThere, List.find?_cons]
    cases oracle symbol with
    | true => exact ih
    | false => rfl

@[simp] theorem answer_each (about : α → Inquiry β) (items : List α) :
    (each about items).answer oracle = items.map fun item => (about item).answer oracle := by
  induction items with
  | nil => rfl
  | cons item items ih =>
    rw [each, answer_bind, answer_bind, answer_pure, ih, List.map_cons]

end Answer

/-! ## Putting an inquiry to a memo -/

/-- **A step of an inquiry** that is put to a memo.  A half that has looked for a symbol in
vain asks the oracle and notes the answer; in between, the other half may have noted it too,
and so this step is possible whatever the memo holds. -/
inductive Step (oracle : Oracle) : {α : Type} → Inquiry α → Memo → Inquiry α → Memo → Prop
  /-- The answer is remembered. -/
  | remember {α : Type} {symbol : Symbol} {next : Bool → Inquiry α} {memo : Memo} {there : Bool}
      (found : memo.answers[symbol]? = some there) :
      Step oracle (ask symbol next) memo (next there) memo
  /-- The oracle is asked, and its answer is noted. -/
  | look {α : Type} {symbol : Symbol} {next : Bool → Inquiry α} {memo : Memo} :
      Step oracle (ask symbol next) memo (next (oracle symbol))
        ⟨memo.answers.insert symbol (oracle symbol)⟩
  /-- The first of two halves proceeds. -/
  | first {α β γ : Type} {one one' : Inquiry β} {two : Inquiry γ} {next : β → γ → Inquiry α}
      {memo memo' : Memo} (step : Step oracle one memo one' memo') :
      Step oracle (both one two next) memo (both one' two next) memo'
  /-- The second of two halves proceeds. -/
  | second {α β γ : Type} {one : Inquiry β} {two two' : Inquiry γ} {next : β → γ → Inquiry α}
      {memo memo' : Memo} (step : Step oracle two memo two' memo') :
      Step oracle (both one two next) memo (both one two' next) memo'
  /-- Two halves that are done are put together. -/
  | join {α β γ : Type} {b : β} {c : γ} {next : β → γ → Inquiry α} {memo : Memo} :
      Step oracle (both (done b) (done c) next) memo (next b c) memo

/-- To ask a memo for a symbol, with nobody in between, is a step. -/
theorem step_ask (oracle : Oracle) (symbol : Symbol) (next : Bool → Inquiry α) (memo : Memo) :
    Step oracle (ask symbol next) memo (next (memo.ask oracle symbol).1)
      (memo.ask oracle symbol).2 := by
  rw [Memo.ask]
  cases found : memo.answers[symbol]? with
  | some there => exact .remember found
  | none => exact .look

section Step

variable {oracle : Oracle} {inquiry inquiry' : Inquiry α} {memo memo' : Memo}

/-- A memo that agrees with the oracle goes on doing so. -/
theorem Step.agrees (step : Step oracle inquiry memo inquiry' memo')
    (h : memo.Agrees oracle) : memo'.Agrees oracle := by
  induction step with
  | remember _ => exact h
  | @look _ symbol => exact h.learn [symbol]
  | first _ ih => exact ih h
  | second _ ih => exact ih h
  | join => exact h

/-- A step does not change what the inquiry finds out. -/
theorem Step.answer_eq (step : Step oracle inquiry memo inquiry' memo')
    (h : memo.Agrees oracle) : inquiry'.answer oracle = inquiry.answer oracle := by
  induction step with
  | remember found => rw [answer_ask, h _ _ found]
  | look => rfl
  | first _ ih => rw [answer, answer, ih h]
  | second _ ih => rw [answer, answer, ih h]
  | join => rfl

/-- A step does not change what the memo will have learned in the end. -/
theorem Step.learn_asked_eq (step : Step oracle inquiry memo inquiry' memo')
    (h : memo.Agrees oracle) :
    memo'.learn oracle (inquiry'.asked oracle) = memo.learn oracle (inquiry.asked oracle) := by
  induction step with
  | @remember _ symbol next memo there found =>
    rw [asked, Memo.learn_cons, h.learn_singleton found, h symbol there found]
  | @look _ symbol next memo =>
    rw [asked, Memo.learn_cons, Memo.insert_eq_learn]
  | first step ih =>
    rw [asked, asked, step.answer_eq h, List.append_assoc, List.append_assoc, Memo.learn_append,
      ih h, ← Memo.learn_append]
  | @second _ _ _ one two two' next memo memo' step ih =>
    -- what the first half asks is learned last, so that the second half is at the front
    rw [asked, asked, step.answer_eq h, Memo.learn_append, Memo.learn_append,
      Memo.learn_comm oracle memo', ih h, Memo.learn_comm oracle memo, ← Memo.learn_append,
      ← Memo.learn_append, ← List.append_assoc]
  | join => rfl

/-- **A step brings the end nearer**, whichever half makes it. -/
theorem Step.length_eq (step : Step oracle inquiry memo inquiry' memo')
    (h : memo.Agrees oracle) : inquiry.length oracle = inquiry'.length oracle + 1 := by
  induction step with
  | remember found => rw [length, h _ _ found]
  | look => rfl
  | first step ih =>
    rw [length, length, step.answer_eq h, ih h]
    omega
  | second step ih =>
    rw [length, length, step.answer_eq h, ih h]
    omega
  | join => rw [length, length, length, answer, answer, Nat.zero_add]

/-- An inquiry that is not done can proceed. -/
theorem exists_step (oracle : Oracle) (inquiry : Inquiry α) (memo : Memo) :
    (∃ value, inquiry = done value) ∨
      ∃ inquiry' memo', Step oracle inquiry memo inquiry' memo' := by
  induction inquiry with
  | done value => exact .inl ⟨value, rfl⟩
  | ask symbol next _ => exact .inr ⟨_, _, step_ask oracle symbol next memo⟩
  | both one two next ihone ihtwo _ =>
    rcases ihone with ⟨b, rfl⟩ | ⟨one', memo', step⟩
    · rcases ihtwo with ⟨c, rfl⟩ | ⟨two', memo', step⟩
      · exact .inr ⟨_, _, .join⟩
      · exact .inr ⟨_, _, .second step⟩
    · exact .inr ⟨_, _, .first step⟩

end Step

/-- **An inquiry that is put to a memo yields** a value and leaves a memo behind if it comes
to this end however it proceeds. -/
inductive Yields (oracle : Oracle) {α : Type} (value : α) (final : Memo) :
    Inquiry α → Memo → Prop
  /-- It has come to the end. -/
  | done : Yields oracle value final (done value) final
  /-- It can proceed, and whatever step it takes, it comes to the end. -/
  | step {inquiry : Inquiry α} {memo : Memo}
      (proceeds : ∃ inquiry' memo', Step oracle inquiry memo inquiry' memo')
      (after : ∀ inquiry' memo', Step oracle inquiry memo inquiry' memo' →
        Yields oracle value final inquiry' memo') :
      Yields oracle value final inquiry memo

section Yields

variable {oracle : Oracle} {inquiry : Inquiry α} {memo final : Memo} {value : α}

/-- However an inquiry proceeds, it finds out what the oracle's own answers say, and the memo
learns the symbols that are asked. -/
theorem yields_answer (oracle : Oracle) (inquiry : Inquiry α) (memo : Memo)
    (agrees : memo.Agrees oracle) :
    Yields oracle (inquiry.answer oracle) (memo.learn oracle (inquiry.asked oracle)) inquiry
      memo := by
  rcases exists_step oracle inquiry memo with ⟨value, rfl⟩ | proceeds
  · rw [asked, Memo.learn_nil]
    exact .done
  · -- whatever step is taken, fewer are left, and they lead to the same end
    refine .step proceeds fun inquiry' memo' step => ?_
    have hlength := step.length_eq agrees
    rw [← step.answer_eq agrees, ← step.learn_asked_eq agrees]
    exact yields_answer oracle inquiry' memo' (step.agrees agrees)
termination_by inquiry.length oracle
decreasing_by omega

/-- **An inquiry that is put to a memo** which agrees with the oracle yields one thing only,
whatever the memo holds and in whatever order two halves proceed: the value that the oracle's
own answers give, and a memo that has learned the symbols that are asked. -/
theorem yields_iff (agrees : memo.Agrees oracle) :
    Yields oracle value final inquiry memo ↔
      value = inquiry.answer oracle ∧ final = memo.learn oracle (inquiry.asked oracle) := by
  constructor
  · intro h
    induction h with
    | done =>
      rw [asked, Memo.learn_nil]
      exact ⟨rfl, rfl⟩
    | step proceeds _ ih =>
      -- one possible step is enough, since no step changes the answer
      obtain ⟨inquiry', memo', step⟩ := proceeds
      rw [← step.answer_eq agrees, ← step.learn_asked_eq agrees]
      exact ih inquiry' memo' step (step.agrees agrees)
  · rintro ⟨rfl, rfl⟩
    exact yields_answer oracle inquiry memo agrees

end Yields

end Inquiry
end Activation
