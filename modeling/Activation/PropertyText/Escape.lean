import Activation.Text.Blank
import Activation.Text.Digits

/-!
# Escapes in property text

Keys and values are written with backslash escapes.  A backslash before `t`,
`n`, `r` or `f` stands for the control character of that name, a backslash
before `u` for the character whose number follows in hexadecimal, and a
backslash before anything else for that character itself.  A backslash with
nothing after it stands for nothing.

Reading a number is lenient: up to four characters after the `u` are taken, all
that are left at the end of the text, and they may begin with a plus sign.  If
they write no character, the `u` and they are kept as they stand.

`escape` goes the other way.  It escapes what a line of property text would
otherwise read as a separator, a comment, a blank or a line end, so that what it
writes is read back unchanged.
-/

namespace Activation
namespace PropertyText

/-- The form feed, one of the blanks between a key and its value. -/
def formFeed : Char := Char.ofNat 0x0C

/-- The number written in hexadecimal with an optional plus sign. -/
def hexNumber? : List Char → Option Nat
  | '+' :: ds => Text.readNat? 16 ds
  | ds => Text.readNat? 16 ds

/-- The character that the digits of a numeric escape write. -/
def numbered? (digits : List Char) : Option Char :=
  (hexNumber? digits).bind Text.scalar?

/-- The character that a backslash before a given character stands for, numeric
escapes apart. -/
def named : Char → Char
  | 't' => '\t'
  | 'n' => '\n'
  | 'r' => '\r'
  | 'f' => formFeed
  | c => c

/-- The characters that escaped text stands for. -/
def unescape : List Char → List Char
  | [] => []
  | ['\\'] => []
  | '\\' :: 'u' :: rest =>
    let digits := rest.take 4
    match numbered? digits with
    | some c => c :: unescape (rest.drop 4)
    | none => 'u' :: (digits ++ unescape (rest.drop 4))
  | '\\' :: c :: rest => named c :: unescape rest
  | c :: rest => c :: unescape rest
termination_by cs => cs.length
decreasing_by all_goals simp; try omega

/-- A character as it is written in a key or a value. -/
def escapeChar (c : Char) : List Char :=
  if c = '\\' then ['\\', '\\']
  else if c = '\n' then ['\\', 'n']
  else if c = '\r' then ['\\', 'r']
  else if c = '\t' then ['\\', 't']
  else if c = formFeed then ['\\', 'f']
  else if c = '=' || c = ':' || c = '#' || c = '!' || Text.isBlank c then ['\\', c]
  else [c]

/-- A key or a value as it is written. -/
def escape (cs : List Char) : List Char :=
  cs.flatMap escapeChar

end PropertyText
end Activation
