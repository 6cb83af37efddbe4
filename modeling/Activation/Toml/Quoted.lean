import Activation.Text.Digits
import Activation.Toml.Layout

/-!
# Texts in a TOML document

A text stands between quotes.  Between double quotes a backslash begins an
escape; between single quotes every character stands for itself.  Either kind of
quote may be tripled, and then the text may go over several lines: a line end just
after the opening quotes does not count, every other line end is read as a line
feed, and one or two quotes that do not close the text belong to it, also if they
stand just before the closing ones.

Between tripled double quotes a backslash at the end of a line folds the line: it
stands for nothing, and so do the blanks and line ends after it.

The readers here begin after the opening quotes and give what they read together
with what follows the closing quotes.
-/

namespace Activation
namespace Toml

/-- The character whose number is written by a given count of hexadecimal digits. -/
def numbered? (count : Nat) (cs : List Char) : Option Char :=
  let digits := cs.take count
  if digits.length = count then (Text.readNat? 16 digits).bind Text.scalar? else none

/-- The character that an escape stands for, and how many characters after the
backslash write it. -/
def escape? : List Char → Option (Char × Nat)
  | 'b' :: _ => some (Char.ofNat 0x08, 1)
  | 't' :: _ => some ('\t', 1)
  | 'n' :: _ => some ('\n', 1)
  | 'f' :: _ => some (Char.ofNat 0x0C, 1)
  | 'r' :: _ => some ('\r', 1)
  | '"' :: _ => some ('"', 1)
  | '\\' :: _ => some ('\\', 1)
  | 'u' :: rest => (numbered? 4 rest).map fun c => (c, 5)
  | 'U' :: rest => (numbered? 8 rest).map fun c => (c, 9)
  | _ => none

/-- A character in front of what has been read. -/
def prepend (c : Char) (read : List Char × List Char) : List Char × List Char :=
  (c :: read.1, read.2)

/-- A text between double quotes. -/
def quoted? (cs : List Char) : Option (List Char × List Char) :=
  match cs with
  | [] => none
  | '"' :: rest => some ([], rest)
  | '\\' :: rest =>
    match escape? rest with
    | none => none
    | some (c, count) => (quoted? (rest.drop count)).map (prepend c)
  | c :: rest => if isShown c then (quoted? rest).map (prepend c) else none
termination_by cs.length
decreasing_by all_goals simp; try omega

/-- A text between single quotes. -/
def literal? : List Char → Option (List Char × List Char)
  | [] => none
  | '\'' :: rest => some ([], rest)
  | c :: rest => if isShown c then (literal? rest).map (prepend c) else none

/-- What three quotes in a row close: up to two quotes after them belong to the
text, and the last three of all close it. -/
def closing (mark : Char) (rest : List Char) : List Char × List Char :=
  let extra := (rest.takeWhile (· == mark)).length.min 2
  (List.replicate extra mark, rest.drop extra)

/-- Whether a character may stand in a text over several lines. -/
def isInBlock (c : Char) : Bool :=
  isShown c || c == '\n'

theorem length_lineBreak?_le {cs rest : List Char} (h : lineBreak? cs = some rest) :
    rest.length ≤ cs.length := by
  unfold lineBreak? at h
  split at h <;> simp at h <;> subst h <;> simp only [List.length_cons] <;> omega

/-- What follows a fold, that is, the rest of a line on which nothing but blanks
stands, and the blanks and line ends after it. -/
def fold? (cs : List Char) : Option { rest : List Char // rest.length ≤ cs.length } :=
  match h : lineBreak? (skipBlanks cs) with
  | none => none
  | some line =>
    some ⟨skipLines line, Nat.le_trans (length_skipLines_le line)
      (Nat.le_trans (length_lineBreak?_le h) (length_dropWhile_le _ cs))⟩

/-- A text between tripled double quotes. -/
def quotedBlock? (cs : List Char) : Option (List Char × List Char) :=
  match cs with
  | [] => none
  | '"' :: '"' :: '"' :: rest => some (closing '"' rest)
  | '\r' :: '\n' :: rest => (quotedBlock? rest).map (prepend '\n')
  | '\\' :: rest =>
    match fold? rest with
    | some ⟨folded, _⟩ => quotedBlock? folded
    | none =>
      match escape? rest with
      | none => none
      | some (c, count) => (quotedBlock? (rest.drop count)).map (prepend c)
  | c :: rest => if isInBlock c then (quotedBlock? rest).map (prepend c) else none
termination_by cs.length
decreasing_by
  · simp only [List.length_cons]; omega
  · simp only [List.length_cons]; omega
  · simp only [List.length_cons, List.length_drop]; omega
  · simp

/-- A text between tripled single quotes. -/
def literalBlock? : List Char → Option (List Char × List Char)
  | [] => none
  | '\'' :: '\'' :: '\'' :: rest => some (closing '\'' rest)
  | '\r' :: '\n' :: rest => (literalBlock? rest).map (prepend '\n')
  | c :: rest => if isInBlock c then (literalBlock? rest).map (prepend c) else none

/-- What follows a line end just after the opening quotes. -/
def dropFirstBreak (cs : List Char) : List Char :=
  (lineBreak? cs).getD cs

/-- A text of any kind, its opening quotes included. -/
def text? : List Char → Option (List Char × List Char)
  | '"' :: '"' :: '"' :: rest => quotedBlock? (dropFirstBreak rest)
  | '"' :: rest => quoted? rest
  | '\'' :: '\'' :: '\'' :: rest => literalBlock? (dropFirstBreak rest)
  | '\'' :: rest => literal? rest
  | _ => none

end Toml
end Activation
