import Activation.Proofs.Tables
import Activation.Symbol.Memo
import Mathlib.Data.Finset.Card
import Mathlib.Data.Finset.Dedup

/-!
# What a memo has learned

Whoever asks through a memo changes it, but only in one way: the memo learns what the oracle
says of some symbols.  What it has learned does not depend on the order in which the symbols
were asked, nor on how often each of them was, and so it is told by the list of symbols
alone.

* `Memo.getElem?_learn`: what a memo that has learned something answers.
* `Memo.learn_append`, `Memo.learn_comm`: learning goes on from what has been learned, and in
  any order.
* `Memo.ask_eq`: asking for a symbol is learning it.
* `Memo.size_learn_empty`: a memo counts the symbols that it has learned, each of them once.
* `Memo.Operation.run_eq`: an operation gives what the oracle says, and what the memo has
  learned afterwards.
-/

namespace Activation
namespace Memo

/-- **A memo agrees with an oracle**: what it remembers is what the oracle says. -/
def Agrees (oracle : Oracle) (memo : Memo) : Prop :=
  ∀ (symbol : Symbol) (answer : Bool), memo.answers[symbol]? = some answer → answer = oracle symbol

/-- A memo after what the oracle says of some symbols has been noted. -/
def learn (oracle : Oracle) (memo : Memo) (symbols : List Symbol) : Memo :=
  ⟨memo.answers.insertMany (symbols.map fun symbol => (symbol, oracle symbol))⟩

variable {oracle : Oracle} {memo : Memo}

/-- Two memos with the same answers are the same. -/
theorem eq_of_getElem?_eq {memo' : Memo}
    (h : ∀ symbol : Symbol, memo.answers[symbol]? = memo'.answers[symbol]?) : memo = memo' :=
  congrArg Memo.mk (Std.ExtTreeMap.ext_getElem? h)

theorem agrees_empty (oracle : Oracle) : Agrees oracle {} := by
  intro symbol answer h
  rw [Std.ExtTreeMap.getElem?_empty] at h
  exact nomatch h

variable (oracle memo) in
/-- A memo that has learned symbols answers for them what the oracle says, and for any other
what it did before. -/
theorem getElem?_learn (symbols : List Symbol) (symbol : Symbol) :
    (memo.learn oracle symbols).answers[symbol]? =
      if symbol ∈ symbols then some (oracle symbol) else memo.answers[symbol]? :=
  Tables.getElem?_insertMany_map memo.answers symbols oracle symbol

theorem Agrees.learn (h : Agrees oracle memo) (symbols : List Symbol) :
    Agrees oracle (memo.learn oracle symbols) := by
  intro symbol answer ha
  rw [getElem?_learn] at ha
  split at ha
  · exact (Option.some.inj ha).symm
  · exact h symbol answer ha

@[simp] theorem learn_nil : memo.learn oracle [] = memo :=
  eq_of_getElem?_eq fun symbol => by rw [getElem?_learn, if_neg List.not_mem_nil]

variable (oracle memo) in
/-- A memo that learns more has learned both. -/
theorem learn_append (symbols more : List Symbol) :
    memo.learn oracle (symbols ++ more) = (memo.learn oracle symbols).learn oracle more := by
  refine eq_of_getElem?_eq fun symbol => ?_
  rw [getElem?_learn, getElem?_learn, getElem?_learn]
  by_cases hm : symbol ∈ more
  · rw [if_pos hm, if_pos (List.mem_append_right symbols hm)]
  · have hiff : symbol ∈ symbols ++ more ↔ symbol ∈ symbols := by
      rw [List.mem_append, or_iff_left hm]
    rw [if_neg hm, if_congr hiff rfl rfl]

variable (oracle memo) in
theorem learn_cons (symbol : Symbol) (symbols : List Symbol) :
    memo.learn oracle (symbol :: symbols) = (memo.learn oracle [symbol]).learn oracle symbols :=
  learn_append oracle memo [symbol] symbols

variable (oracle memo) in
/-- What is learned depends only on which symbols there are. -/
theorem learn_congr {symbols others : List Symbol}
    (h : ∀ symbol, symbol ∈ symbols ↔ symbol ∈ others) :
    memo.learn oracle symbols = memo.learn oracle others := by
  refine eq_of_getElem?_eq fun symbol => ?_
  rw [getElem?_learn, getElem?_learn, if_congr (h symbol) rfl rfl]

variable (oracle memo) in
/-- A memo may learn in any order. -/
theorem learn_comm (symbols more : List Symbol) :
    (memo.learn oracle symbols).learn oracle more =
      (memo.learn oracle more).learn oracle symbols := by
  rw [← learn_append, ← learn_append]
  refine learn_congr oracle memo fun symbol => ?_
  rw [List.mem_append, List.mem_append, or_comm]

/-- A memo that remembers a symbol has learned it. -/
theorem Agrees.learn_singleton (h : Agrees oracle memo) {symbol : Symbol} {answer : Bool}
    (hs : memo.answers[symbol]? = some answer) : memo.learn oracle [symbol] = memo := by
  refine eq_of_getElem?_eq fun other => ?_
  rw [getElem?_learn]
  split
  · next hm => rw [List.mem_singleton.mp hm, hs, h symbol answer hs]
  · rfl

variable (oracle memo) in
/-- To note what the oracle says of a symbol is to learn it. -/
theorem insert_eq_learn (symbol : Symbol) :
    ⟨memo.answers.insert symbol (oracle symbol)⟩ = memo.learn oracle [symbol] :=
  rfl

/-- **Asking for a symbol** gives what the oracle says, and the memo learns the symbol. -/
theorem ask_eq (h : Agrees oracle memo) (symbol : Symbol) :
    memo.ask oracle symbol = (oracle symbol, memo.learn oracle [symbol]) := by
  rw [ask]
  cases hs : memo.answers[symbol]? with
  | some answer => rw [h.learn_singleton hs, h symbol answer hs]
  | none => rfl

/-- **A memo counts the symbols** that it has learned, each of them once. -/
theorem size_learn_empty (oracle : Oracle) (symbols : List Symbol) :
    (learn oracle {} symbols).size = symbols.toFinset.card := by
  have hmem : ∀ symbol, symbol ∈ (learn oracle {} symbols).answers.keys ↔ symbol ∈ symbols := by
    intro symbol
    rw [Std.ExtTreeMap.mem_keys, Std.ExtTreeMap.mem_iff_isSome_getElem?, getElem?_learn,
      Std.ExtTreeMap.getElem?_empty]
    split <;> simp [*]
  have hkeys : (learn oracle {} symbols).answers.keys.toFinset = symbols.toFinset := by
    ext symbol
    rw [List.mem_toFinset, List.mem_toFinset, hmem]
  rw [size, ← Std.ExtTreeMap.length_keys, ← hkeys,
    List.toFinset_card_of_nodup Std.ExtTreeMap.nodup_keys]

/-! ## Operations -/

/-- The symbols that are asked until one is not there. -/
def untilMissing (oracle : Oracle) : List Symbol → List Symbol
  | [] => []
  | symbol :: rest => if oracle symbol then symbol :: untilMissing oracle rest else [symbol]

theorem askEach_eq (h : Agrees oracle memo) (symbols : List Symbol) :
    memo.askEach oracle symbols = (symbols.map oracle, memo.learn oracle symbols) := by
  induction symbols generalizing memo with
  | nil => rw [askEach, learn_nil, List.map_nil]
  | cons symbol symbols ih =>
    rw [askEach, ask_eq h, learn_cons oracle memo symbol symbols, List.map_cons]
    simp only [ih (h.learn [symbol])]

theorem select_eq (h : Agrees oracle memo) (wanted : Bool) (symbols : List Symbol) :
    memo.select oracle wanted symbols =
      (symbols.filter fun symbol => oracle symbol == wanted, memo.learn oracle symbols) := by
  induction symbols generalizing memo with
  | nil => rw [select, learn_nil, List.filter_nil]
  | cons symbol symbols ih =>
    rw [select, ask_eq h, learn_cons oracle memo symbol symbols, List.filter_cons]
    simp only [ih (h.learn [symbol])]

theorem firstMissing_eq (h : Agrees oracle memo) (symbols : List Symbol) :
    memo.firstMissing oracle symbols =
      (symbols.find? fun symbol => !oracle symbol,
        memo.learn oracle (untilMissing oracle symbols)) := by
  induction symbols generalizing memo with
  | nil => rw [firstMissing, untilMissing, learn_nil, List.find?_nil]
  | cons symbol symbols ih =>
    rw [firstMissing, ask_eq h, untilMissing, List.find?_cons]
    cases oracle symbol with
    | true =>
      rw [if_pos rfl, learn_cons oracle memo symbol (untilMissing oracle symbols)]
      exact ih (h.learn [symbol])
    | false => rfl

namespace Operation

/-- The symbols that have been asked since all answers were last forgotten, after one operation
more. -/
def askedSince (oracle : Oracle) (before : List Symbol) : Operation → List Symbol
  | presence symbols | keepPresent symbols | keepMissing symbols => before ++ symbols
  | findMissing symbols => before ++ untilMissing oracle symbols
  | clear => []

/-- **An operation** gives what the oracle itself says.  The memo learns what is asked, or
forgets everything. -/
theorem run_eq (oracle : Oracle) (before : List Symbol) (operation : Operation) :
    operation.run oracle (learn oracle {} before) =
      (operation.plainAnswer oracle, learn oracle {} (operation.askedSince oracle before)) := by
  have h := (agrees_empty oracle).learn before
  cases operation with
  | presence symbols => rw [run, askEach_eq h, askedSince, learn_append, plainAnswer]
  | keepPresent symbols =>
    rw [run, select_eq h, askedSince, learn_append, plainAnswer, Oracle.present]
    simp only [beq_true]
  | keepMissing symbols =>
    rw [run, select_eq h, askedSince, learn_append, plainAnswer, Oracle.missing]
    simp only [beq_false]
  | findMissing symbols =>
    rw [run, firstMissing_eq h, askedSince, learn_append, plainAnswer, Oracle.firstMissing?]
  | clear => rw [run, askedSince, plainAnswer, learn_nil]

end Operation
end Memo
end Activation
