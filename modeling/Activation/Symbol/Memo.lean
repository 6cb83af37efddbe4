import Std.Data.ExtTreeMap
import Activation.Symbol

/-!
# Remembered answers

Asking an oracle may be costly, so its answers are remembered.  A memo maps each
symbol that has been asked, spelled as it was asked, to the answer it got.  A
symbol in the memo is answered from it; any other is put to the oracle, and the
answer is added.

An operation on the memo is one of the ways in which conditions and filters ask,
or it empties the memo.  `Operation.run` carries an operation out and gives the
answer together with the memo afterwards; `Operation.plainAnswer` is the answer
of the oracle itself.
-/

namespace Activation

/-- Remembered answers of an oracle. -/
structure Memo where
  /-- The symbols that have been asked, with their answers. -/
  answers : Std.ExtTreeMap Symbol Bool := ∅

namespace Memo

/-- The number of answers remembered. -/
def size (memo : Memo) : Nat :=
  memo.answers.size

/-- Whether a symbol is there, from memory if possible. -/
def ask (oracle : Oracle) (memo : Memo) (symbol : Symbol) : Bool × Memo :=
  match memo.answers[symbol]? with
  | some answer => (answer, memo)
  | none =>
    let answer := oracle symbol
    (answer, ⟨memo.answers.insert symbol answer⟩)

/-- The answers for several symbols, asked in order. -/
def askEach (oracle : Oracle) (memo : Memo) : List Symbol → List Bool × Memo
  | [] => ([], memo)
  | symbol :: rest =>
    let (answer, memo) := memo.ask oracle symbol
    let (answers, memo) := memo.askEach oracle rest
    (answer :: answers, memo)

/-- The symbols with a given answer, in order. -/
def select (oracle : Oracle) (memo : Memo) (wanted : Bool) : List Symbol → List Symbol × Memo
  | [] => ([], memo)
  | symbol :: rest =>
    let (answer, memo) := memo.ask oracle symbol
    let (selected, memo) := memo.select oracle wanted rest
    (if answer == wanted then symbol :: selected else selected, memo)

/-- The first symbol that is not there.  No symbol after it is asked. -/
def firstMissing (oracle : Oracle) (memo : Memo) : List Symbol → Option Symbol × Memo
  | [] => (none, memo)
  | symbol :: rest =>
    match memo.ask oracle symbol with
    | (true, memo) => memo.firstMissing oracle rest
    | (false, memo) => (some symbol, memo)

/-- The ways to use a memo. -/
inductive Operation where
  /-- Ask for each symbol whether it is there. -/
  | presence (symbols : List Symbol)
  /-- Keep the symbols that are there. -/
  | keepPresent (symbols : List Symbol)
  /-- Keep the symbols that are not there. -/
  | keepMissing (symbols : List Symbol)
  /-- Look for the first symbol that is not there. -/
  | findMissing (symbols : List Symbol)
  /-- Forget all answers. -/
  | clear

/-- What an operation gives. -/
inductive Answer where
  /-- One truth value for each symbol. -/
  | flags (values : List Bool)
  /-- The symbols kept. -/
  | symbols (kept : List Symbol)
  /-- The outcome about a missing symbol, if there is one. -/
  | outcome (result : Option Outcome)
  /-- Nothing. -/
  | nothing
  deriving DecidableEq

namespace Operation

/-- The answer to an operation, and the memo afterwards. -/
def run (oracle : Oracle) (memo : Memo) : Operation → Answer × Memo
  | presence symbols => let (values, memo) := memo.askEach oracle symbols; (.flags values, memo)
  | keepPresent symbols =>
    let (kept, memo) := memo.select oracle true symbols; (.symbols kept, memo)
  | keepMissing symbols =>
    let (kept, memo) := memo.select oracle false symbols; (.symbols kept, memo)
  | findMissing symbols =>
    let (first, memo) := memo.firstMissing oracle symbols
    (.outcome (first.map Oracle.missingOutcome), memo)
  | clear => (.nothing, {})

/-- The answer that the oracle itself gives. -/
def plainAnswer (oracle : Oracle) : Operation → Answer
  | presence symbols => .flags (symbols.map oracle)
  | keepPresent symbols => .symbols (oracle.present symbols)
  | keepMissing symbols => .symbols (oracle.missing symbols)
  | findMissing symbols => .outcome (oracle.firstMissing? symbols)
  | clear => .nothing

end Operation
end Memo
end Activation
