import Activation.Toml.Moment
import Activation.Toml.Number
import Activation.Toml.Quoted
import Activation.Toml.Table

/-!
# Keys and values of a TOML document

A key is one or more names with dots between them; a name is a text on one line
or a bare word.  A value is a text, a plain word such as a number or a date, a
list between brackets or a table between braces.  A list may go over several
lines and may end in a comma; a table between braces stays on its line and may
not.

Lists and tables may be nested, and keys may be dotted, only to a certain depth.

A reader takes the characters that are left and gives what it read together with
what follows.  Readers of lists work with any reader for the items, as long as it
leaves less than it was given.
-/

namespace Activation
namespace Toml

/-- How many lists and tables may be nested, and how many names a key may have. -/
def depthLimit : Nat := 79

/-- Whether a character may stand in a bare name. -/
def isBare (c : Char) : Bool :=
  c.isAlphanum || c == '_' || c == '-'

/-- A name in a key. -/
def name? : List Char → Option (String × List Char)
  | '"' :: rest => (quoted? rest).map fun read => (String.ofList read.1, read.2)
  | '\'' :: rest => (literal? rest).map fun read => (String.ofList read.1, read.2)
  | cs =>
    let word := cs.takeWhile isBare
    if word.isEmpty then none else some (String.ofList word, cs.dropWhile isBare)

/-- The names of a key, of which there may be only so many, with the blanks around
them. -/
def names? : Nat → List Char → Option (List String × List Char)
  | 0, _ => none
  | limit + 1, cs =>
    match name? (skipBlanks cs) with
    | none => none
    | some (name, rest) =>
      match skipBlanks rest with
      | '.' :: rest => (names? limit rest).map fun read => (name :: read.1, read.2)
      | rest => some ([name], rest)

/-- A key, with the blanks around it. -/
def key? (cs : List Char) : Option (List String × List Char) :=
  names? depthLimit cs

/-- Whether a character may stand in a plain word. -/
def isPlain (c : Char) : Bool :=
  c.isAlphanum || c == '+' || c == '-' || c == '_' || c == '.' || c == ':'

/-- Whether a date may go on after a blank: two figures and a colon follow. -/
def timeFollows : List Char → Bool
  | ' ' :: first :: second :: ':' :: _ => first.isDigit && second.isDigit
  | _ => false

/-- A plain word, with the time after a date and a blank. -/
def plainWord (cs : List Char) : List Char × List Char :=
  let word := cs.takeWhile isPlain
  let rest := cs.dropWhile isPlain
  if (date? word).any (·.2.isEmpty) && timeFollows rest then
    (word ++ ' ' :: (rest.drop 1).takeWhile isPlain, (rest.drop 1).dropWhile isPlain)
  else (word, rest)

/-- The value of a plain word. -/
def plain? (word : List Char) : Option Data :=
  if word = ['t', 'r', 'u', 'e'] then some (.bool true)
  else if word = ['f', 'a', 'l', 's', 'e'] then some (.bool false)
  else (moment? word).or (number? word)

/-- A value that holds no others. -/
def scalar? (cs : List Char) : Option (Data × List Char) :=
  match cs with
  | '"' :: _ | '\'' :: _ => (text? cs).map fun read => (.text (String.ofList read.1), read.2)
  | _ =>
    let (word, rest) := plainWord cs
    (plain? word).map fun value => (value, rest)

/-- The items of a list up to its closing bracket. -/
def items? (read : List Char → Option (Data × List Char)) (cs : List Char) :
    Option (List Data × List Char) :=
  match skipLayout cs with
  | ']' :: rest => some ([], rest)
  | start =>
    match read start with
    | none => none
    | some (item, rest) =>
      match skipLayout rest with
      | ']' :: rest => some ([item], rest)
      | ',' :: rest =>
        if rest.length < cs.length then
          (items? read rest).map fun more => (item :: more.1, more.2)
        else none
      | _ => none
termination_by cs.length

/-- A key, an equals sign and a value, with the blanks around them. -/
def pair? (read : List Char → Option (Data × List Char)) (cs : List Char) :
    Option ((List String × Data) × List Char) :=
  match key? cs with
  | some (key, '=' :: rest) =>
    (read (skipBlanks rest)).map fun value => ((key, value.1), skipBlanks value.2)
  | _ => none

/-- The pairs of a table up to its closing brace. -/
def pairs? (read : List Char → Option (Data × List Char)) (cs : List Char) :
    Option (List (List String × Data) × List Char) :=
  match pair? read cs with
  | some (pair, '}' :: rest) => some ([pair], rest)
  | some (pair, ',' :: rest) =>
    if rest.length < cs.length then
      (pairs? read rest).map fun more => (pair :: more.1, more.2)
    else none
  | _ => none
termination_by cs.length

/-- A table between braces, after the opening one. -/
def inlineTable? (read : List Char → Option (Data × List Char)) (cs : List Char) :
    Option (Data × List Char) :=
  match skipBlanks cs with
  | '}' :: rest => some (.record [], rest)
  | _ =>
    match pairs? read cs with
    | none => none
    | some (pairs, rest) => (Table.ofPairs? pairs).map fun table => (table.data, rest)

/-- A value in which lists and tables are nested only so deep. -/
def valueWithin? : Nat → List Char → Option (Data × List Char)
  | depth + 1, '[' :: rest =>
    (items? (valueWithin? depth) rest).map fun read => (.list read.1, read.2)
  | depth + 1, '{' :: rest => inlineTable? (valueWithin? depth) rest
  | _, cs => scalar? cs

/-- A value. -/
def value? (cs : List Char) : Option (Data × List Char) :=
  valueWithin? depthLimit cs

end Toml
end Activation
