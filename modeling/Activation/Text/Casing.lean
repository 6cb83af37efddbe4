import Activation.Text.CaseTable

/-!
# Small letters

The small form of a text, letter by letter, after the Unicode rules that do not
depend on a language.  Two letters need care.  The capital I with a dot above
becomes a small i followed by a combining dot.  The capital sigma becomes a
final sigma where a word ends, that is, where a letter stands before it and none
after it; characters such as apostrophes and combining marks are passed over
when these neighbours are looked for.
-/

namespace Activation
namespace Text

/-- Whether a code point lies in one of the ranges of a table. -/
def inRanges (table : List (Nat × Nat)) (n : Nat) : Bool :=
  table.any fun range => range.1 ≤ n && n ≤ range.2

/-- The small form of a letter that has one of a single character. -/
def lowerChar (c : Char) : Char :=
  let n := c.toNat
  match lowerRuns.find? (fun run => run.1 ≤ n && n ≤ run.2.1 && (n - run.1) % run.2.2.1 == 0) with
  | some run => Char.ofNat (Int.ofNat n + run.2.2.2).toNat
  | none => c

/-- Whether the first character that is not passed over is a letter with case. -/
def meetsLetter (cs : List Char) : Bool :=
  match cs.dropWhile (fun c => inRanges ignorableRanges c.toNat) with
  | [] => false
  | c :: _ => inRanges casedRanges c.toNat

/-- The small form of one character, given the characters before it, the nearest
first, and those after it. -/
def lowerAt (before after : List Char) (c : Char) : List Char :=
  if c = 'Σ' then
    [if meetsLetter before && !meetsLetter after then 'ς' else 'σ']
  else if c = 'İ' then
    ['i', Char.ofNat 0x307]
  else
    [lowerChar c]

/-- The small form of the rest of a text, given what stands before it, the
nearest character first. -/
def lowerFrom (before : List Char) : List Char → List Char
  | [] => []
  | c :: rest => lowerAt before rest c ++ lowerFrom (c :: before) rest

/-- A text in small letters. -/
def lowercase (s : String) : String :=
  String.ofList (lowerFrom [] s.toList)

end Text
end Activation
