import Activation.Data
import Activation.Text.Digits

/-!
# Dates and times in a TOML document

A moment is a date, a time, or both with a `T` or a blank between them; a date
with a time may also have an offset from universal time.  A date must exist in
the calendar, and a minute may have 61 seconds.  A second may have a fraction, of
which the first nine figures count.

A moment has no kind of its own among data.  It is a record with one field of a
reserved name that holds the moment in its usual spelling.
-/

namespace Activation
namespace Toml

/-- The name of the field that holds a moment. -/
def momentField : String := "$__toml_private_datetime"

/-- The number written by exactly so many figures, and what follows them. -/
def fixed? (count : Nat) (cs : List Char) : Option (Nat × List Char) :=
  let digits := cs.take count
  if digits.length = count then
    (Text.readNat? 10 digits).map fun n => (n, cs.drop count)
  else none

/-- What follows a given character. -/
def after? (mark : Char) : List Char → Option (List Char)
  | [] => none
  | c :: rest => if c = mark then some rest else none

/-- Whether a year has a day more. -/
def isLeap (year : Nat) : Bool :=
  year % 4 == 0 && (year % 100 != 0 || year % 400 == 0)

/-- The number of days of a month. -/
def daysIn (year month : Nat) : Nat :=
  if month == 2 then if isLeap year then 29 else 28
  else if [4, 6, 9, 11].contains month then 30
  else 31

/-- The usual spelling of a date, and what follows it. -/
def date? (cs : List Char) : Option (String × List Char) := do
  let (year, cs) ← fixed? 4 cs
  let (month, cs) ← fixed? 2 (← after? '-' cs)
  let (day, cs) ← fixed? 2 (← after? '-' cs)
  if 1 ≤ month ∧ month ≤ 12 ∧ 1 ≤ day ∧ day ≤ daysIn year month then
    some (Text.writePadded 4 year ++ "-" ++ Text.writePadded 2 month ++ "-" ++
      Text.writePadded 2 day, cs)
  else none

/-- The usual spelling of the fraction of a second, and what follows it. -/
def secondFraction? : List Char → Option (String × List Char)
  | '.' :: cs =>
    let digits := cs.takeWhile Char.isDigit
    if digits.isEmpty then none
    else
      let kept := ((digits.take 9).reverse.dropWhile (· == '0')).reverse
      some (if kept.isEmpty then "" else String.ofList ('.' :: kept), cs.dropWhile Char.isDigit)
  | cs => some ("", cs)

/-- The usual spelling of an hour and a minute, and what follows it. -/
def hourMinute? (cs : List Char) : Option (String × List Char) := do
  let (hour, cs) ← fixed? 2 cs
  let (minute, cs) ← fixed? 2 (← after? ':' cs)
  if hour ≤ 23 ∧ minute ≤ 59 then
    some (Text.writePadded 2 hour ++ ":" ++ Text.writePadded 2 minute, cs)
  else none

/-- The usual spelling of a time, and what follows it. -/
def time? (cs : List Char) : Option (String × List Char) := do
  let (start, cs) ← hourMinute? cs
  let (second, cs) ← fixed? 2 (← after? ':' cs)
  if second ≤ 60 then
    let (fraction, cs) ← secondFraction? cs
    some (start ++ ":" ++ Text.writePadded 2 second ++ fraction, cs)
  else none

/-- The usual spelling of an offset; there may be none. -/
def offset? : List Char → Option String
  | [] => some ""
  | ['Z'] | ['z'] => some "Z"
  | sign :: cs =>
    match hourMinute? cs with
    | some (distance, []) =>
      if sign = '+' then some ("+" ++ distance)
      else if sign = '-' then some ((if distance = "00:00" then "+" else "-") ++ distance)
      else none
    | _ => none

/-- The usual spelling of a moment. -/
def spelling? (cs : List Char) : Option String :=
  match date? cs with
  | some (date, []) => some date
  | some (date, mark :: rest) =>
    if mark = 'T' || mark = 't' || mark = ' ' then do
      let (time, rest) ← time? rest
      let offset ← offset? rest
      some (date ++ "T" ++ time ++ offset)
    else none
  | none =>
    match time? cs with
    | some (time, []) => some time
    | _ => none

/-- The moment that a text writes. -/
def moment? (cs : List Char) : Option Data :=
  (spelling? cs).map fun spelling => .record [(momentField, .text spelling)]

end Toml
end Activation
