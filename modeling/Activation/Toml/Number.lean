import Activation.Data
import Activation.Text.Digits

/-!
# Numbers in a TOML document

A whole number is written in decimal with an optional sign, or in base 16, 8 or 2
after `0x`, `0o` or `0b`; it must fit in 64 bits with a sign.  Any other number
has a fraction or an exponent or both, or it is `inf` or `nan`.  Figures may be
set apart by single underscores, and a decimal number does not begin with a zero
unless the zero is all of it.

A positive number that is too large for a binary number of 64 bits is an error, a
negative one is not.
-/

namespace Activation
namespace Toml

/-- The figures of a number without the underscores between them. -/
def figures? (isFigure : Char → Bool) : List Char → Option (List Char)
  | [] => none
  | [c] => if isFigure c then some [c] else none
  | c :: '_' :: rest => if isFigure c then (figures? isFigure rest).map (c :: ·) else none
  | c :: rest => if isFigure c then (figures? isFigure rest).map (c :: ·) else none

/-- The number written in a given base. -/
def natural? (base : Nat) (cs : List Char) : Option Nat :=
  (figures? (fun c => (Text.digitOf? base c).isSome) cs).bind (Text.readNat? base)

/-- The figures of a decimal number; a leading zero must be all of it. -/
def decimal? (cs : List Char) : Option (List Char) :=
  (figures? Char.isDigit cs).filter fun digits => digits.head? != some '0' || digits.length == 1

/-- Whether the text of a number begins with a minus, and the text without its
sign. -/
def splitSign : List Char → Bool × List Char
  | '-' :: rest => (true, rest)
  | '+' :: rest => (false, rest)
  | cs => (false, cs)

/-- The whole number that a text writes, whatever its size. -/
def whole? (cs : List Char) : Option Int :=
  match cs with
  | '0' :: 'x' :: digits => (natural? 16 digits).map Int.ofNat
  | '0' :: 'o' :: digits => (natural? 8 digits).map Int.ofNat
  | '0' :: 'b' :: digits => (natural? 2 digits).map Int.ofNat
  | cs =>
    let (isNegative, digits) := splitSign cs
    ((decimal? digits).bind (Text.readNat? 10)).map fun n =>
      if isNegative then -Int.ofNat n else Int.ofNat n

/-- The least number that is too large: halfway between the largest binary number
of 64 bits and the next power of two. -/
def tooLarge : Nat := Nat.pow 2 1024 - Nat.pow 2 970

/-- Whether a number, written as figures times a power of ten, is too large.  Only
if the count of its figures leaves it open are the two numbers compared. -/
def exceeds (digits : List Char) (exponent : Int) : Bool :=
  let n := (Text.readNat? 10 digits).getD 0
  let size := (digits.dropWhile (· == '0')).length + exponent
  n != 0 && (400 < size ||
    (300 < size &&
      if 0 ≤ exponent then tooLarge ≤ n * Nat.pow 10 exponent.toNat
      else tooLarge * Nat.pow 10 (-exponent).toNat ≤ n))

/-- The figures of a fraction, given what follows the whole part.  Without a point
there is no fraction. -/
def fraction? : List Char → Option (List Char)
  | [] => some []
  | '.' :: digits => figures? Char.isDigit digits
  | _ => none

/-- The exponent, given what follows the whole part and the fraction. -/
def exponent? : List Char → Option Int
  | [] => some 0
  | _ :: written =>
    let (isNegative, digits) := splitSign written
    ((figures? Char.isDigit digits).bind (Text.readNat? 10)).map fun n =>
      if isNegative then -Int.ofNat n else Int.ofNat n

/-- Whether a character separates the parts of a number. -/
def isPartMark (c : Char) : Bool :=
  c == '.' || c == 'e' || c == 'E'

/-- Whether a character begins an exponent. -/
def isExponentMark (c : Char) : Bool :=
  c == 'e' || c == 'E'

/-- Whether a text writes a number with a fraction or an exponent. -/
def isFractional (cs : List Char) : Bool :=
  let (isNegative, body) := splitSign cs
  let tail := body.dropWhile (!isPartMark ·)
  match decimal? (body.takeWhile (!isPartMark ·)), fraction? (tail.takeWhile (!isExponentMark ·)),
      exponent? (tail.dropWhile (!isExponentMark ·)) with
  | some whole, some fraction, some exponent =>
    !tail.isEmpty && (isNegative || !exceeds (whole ++ fraction) (exponent - fraction.length))
  | _, _, _ => false

/-- Whether a text writes a value that is no finite number. -/
def isSpecial (cs : List Char) : Bool :=
  let word := String.ofList (splitSign cs).2
  word == "inf" || word == "nan"

/-- The number that a text writes. -/
def number? (cs : List Char) : Option Data :=
  match whole? cs with
  | some n => if Text.fits64 n then some (.int n) else none
  | none => if isFractional cs || isSpecial cs then some (.real (String.ofList cs)) else none

end Toml
end Activation
