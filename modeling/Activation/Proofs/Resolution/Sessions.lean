import Activation.Proofs.Resolution.Inquiry

/-!
# Passes that share a memo

A memo is used again and again: by operations of its own, and by passes that put their
questions to it instead of the oracle.  A session is a list of such uses.  Its state is the
memo, and all that the memo tells of the past is which symbols have been asked since its
answers were last forgotten.  That is enough to see that the memo is transparent: none of its
uses can tell how it was used before.

* `Use.leads_iff`: the memo that a use leaves behind.
* `Session.iff_eq`: the memo that a session leaves behind.
* `Session.transparent`: a memo gives to each use what the oracle would give, and it counts the
  symbols that have been asked.
-/

namespace Activation

/-- One use of a memo. -/
inductive Use : Type 1 where
  /-- An operation of its own. -/
  | direct (operation : Memo.Operation)
  /-- A pass, which starts with the host in some state. -/
  | pass {σ : Type} (engine : Engine) (host : Host σ) (request : Request) (state : σ)

namespace Use

variable (oracle : Oracle)

/-- The symbols that have been asked since all answers were last forgotten, after one use
more. -/
def askedSince (before : List Symbol) : Use → List Symbol
  | direct operation => operation.askedSince oracle before
  | pass engine host request state =>
    before ++ (engine.inquire host request state).asked oracle

/-- The memo that a use leaves behind. -/
def Leads (memo final : Memo) : Use → Prop
  | direct operation => (operation.run oracle memo).2 = final
  | pass engine host request state =>
    ∃ result, Inquiry.Yields oracle result final (engine.inquire host request state) memo

variable {oracle}

/-- A use that finds a memo which has learned some symbols leaves behind a memo which has
learned what is asked as well, or nothing if the use is to forget. -/
theorem leads_iff (use : Use) {before : List Symbol} {final : Memo} :
    use.Leads oracle (Memo.learn oracle {} before) final ↔
      final = Memo.learn oracle {} (use.askedSince oracle before) := by
  cases use with
  | direct operation => rw [Leads, Memo.Operation.run_eq, askedSince, eq_comm]
  | pass engine host request state =>
    rw [Leads, askedSince, Memo.learn_append]
    simp only [Inquiry.yields_iff ((Memo.agrees_empty oracle).learn before), exists_eq_left]

end Use

/-- **A session**: the uses of a memo one after the other, from the memo that the first of
them finds to the memo that the last leaves behind. -/
def Session (oracle : Oracle) : List Use → Memo → Memo → Prop
  | [], memo, final => final = memo
  | use :: uses, memo, final => ∃ next, use.Leads oracle memo next ∧ Session oracle uses next final

namespace Session

variable (oracle : Oracle)

/-- The symbols that have been asked in a session since all answers were last forgotten. -/
def asked (uses : List Use) : List Symbol :=
  uses.foldl (Use.askedSince oracle) []

/-- A session goes on from what the memo has learned, whatever that is. -/
theorem iff_foldl (uses : List Use) (before : List Symbol) (final : Memo) :
    Session oracle uses (Memo.learn oracle {} before) final ↔
      final = Memo.learn oracle {} (uses.foldl (Use.askedSince oracle) before) := by
  induction uses generalizing before with
  | nil => rfl
  | cons use uses ih =>
    rw [Session, List.foldl_cons]
    simp only [use.leads_iff, exists_eq_left, ih]

/-- A session that begins with an empty memo leaves behind what has been asked. -/
theorem iff_eq (uses : List Use) (final : Memo) :
    Session oracle uses {} final ↔ final = Memo.learn oracle {} (asked oracle uses) := by
  have h := iff_foldl oracle uses [] final
  rwa [Memo.learn_nil] at h

/-- **A memo is transparent.**  However it has been used, by operations and by passes in any
order, it is left in one state, and the number of its answers is the number of different
symbols that have been asked since its answers were last forgotten.  An operation then gives
what the oracle itself says.  And a pass of any engine that asks the memo, however the two
halves of its pre-filter take turns, comes to an end, and has the result and leaves the host in
the state that the same engine gives with the oracle itself. -/
theorem transparent (uses : List Use) :
    ∃ memo, (∀ final, Session oracle uses {} final ↔ final = memo) ∧
      memo.size = (asked oracle uses).toFinset.card ∧
      (∀ operation : Memo.Operation,
        (operation.run oracle memo).1 = operation.plainAnswer oracle) ∧
      ∀ {σ : Type} (engine : Engine) (host : Host σ) (request : Request) (state : σ)
        (result : Except Failure Resolution × σ),
        (∃ final, Inquiry.Yields oracle result final (engine.inquire host request state) memo) ↔
          result = (engine.withOracle oracle).resolve host request state := by
  have agrees := (Memo.agrees_empty oracle).learn (asked oracle uses)
  refine ⟨Memo.learn oracle {} (asked oracle uses), iff_eq oracle uses,
    Memo.size_learn_empty oracle _, ?_, ?_⟩
  · intro operation
    rw [Memo.Operation.run_eq]
  · intro σ engine host request state result
    simp only [Inquiry.yields_iff agrees, exists_and_left, exists_eq, and_true,
      Engine.answer_inquire]

end Session
end Activation
