import Activation.Data
import Activation.Text.Digits

/-!
# Writing data on several lines

Data are written as JSON, indented by two blanks for each level.  Every item of a
list and every field of a record stands on a line of its own, except that an
empty list or record is written in one piece.  In a text, quotes, backslashes and
the control characters of ASCII are escaped, and everything else stands for
itself.
-/

namespace Activation
namespace Data

/-- A figure of a number in hexadecimal. -/
def hexFigure (n : Nat) : Char :=
  Char.ofNat (if n < 10 then 0x30 + n else 0x61 + (n - 10))

/-- A character of a text as it is written. -/
def quoteChar (c : Char) : List Char :=
  if c = '"' then ['\\', '"']
  else if c = '\\' then ['\\', '\\']
  else if c = '\n' then ['\\', 'n']
  else if c = '\r' then ['\\', 'r']
  else if c = '\t' then ['\\', 't']
  else if c = Char.ofNat 0x08 then ['\\', 'b']
  else if c = Char.ofNat 0x0C then ['\\', 'f']
  else if c.toNat < 0x20 then
    ['\\', 'u', '0', '0', hexFigure (c.toNat / 16), hexFigure (c.toNat % 16)]
  else [c]

/-- A text between quotes. -/
def quote (s : String) : String :=
  "\"" ++ String.ofList (s.toList.flatMap quoteChar) ++ "\""

/-- The blanks in front of a line of a given level. -/
def margin (level : Nat) : String :=
  String.ofList (List.replicate (2 * level) ' ')

/-- Written items between brackets, one on each line of the level within. -/
def enclosed (level : Nat) (opening closing : String) (written : List String) : String :=
  if written.isEmpty then opening ++ closing
  else
    opening ++ "\n" ++ ",\n".intercalate (written.map fun item => margin (level + 1) ++ item) ++
      "\n" ++ margin level ++ closing

mutual

/-- A datum that stands on a given level. -/
def printAt (level : Nat) : Data → String
  | null => "null"
  | bool value => if value then "true" else "false"
  | int value => Text.writeInt value
  | real written => written
  | text value => quote value
  | list items => enclosed level "[" "]" (printItems level items)
  | record fields => enclosed level "\x7b" "\x7d" (printFields level fields)

/-- The items of a list that stands on a given level. -/
def printItems (level : Nat) : List Data → List String
  | [] => []
  | item :: rest => printAt (level + 1) item :: printItems level rest

/-- The fields of a record that stands on a given level. -/
def printFields (level : Nat) : List (String × Data) → List String
  | [] => []
  | (name, value) :: rest =>
    (quote name ++ ": " ++ printAt (level + 1) value) :: printFields level rest

end

/-- A datum on several lines. -/
def print (data : Data) : String :=
  data.printAt 0

end Data
end Activation
