/-!
# Numbers written with digits

A natural number is one or more digits of a base, the first digit weighing most.
A signed number may carry one `+` or `-` in front.  Nothing else is a number: no
blanks, no separators, no empty text.
-/

namespace Activation
namespace Text

/-- The value of a digit; the letters, of either case, follow the ten figures. -/
def digitValue? (c : Char) : Option Nat :=
  if '0' ≤ c ∧ c ≤ '9' then some (c.toNat - 0x30)
  else if 'a' ≤ c ∧ c ≤ 'z' then some (c.toNat - 0x61 + 10)
  else if 'A' ≤ c ∧ c ≤ 'Z' then some (c.toNat - 0x41 + 10)
  else none

/-- The value of a character as a digit of a given base. -/
def digitOf? (base : Nat) (c : Char) : Option Nat :=
  (digitValue? c).filter (· < base)

/-- The number that digits write after a number has been read already. -/
def accumulate? (base : Nat) : Nat → List Char → Option Nat
  | n, [] => some n
  | n, c :: cs => (digitOf? base c).bind fun d => accumulate? base (n * base + d) cs

/-- The number written by one or more digits of a base. -/
def readNat? (base : Nat) (cs : List Char) : Option Nat :=
  if cs.isEmpty then none else accumulate? base 0 cs

/-- The number written in decimal with an optional sign. -/
def readInt? : List Char → Option Int
  | '+' :: ds => (readNat? 10 ds).map Int.ofNat
  | '-' :: ds => (readNat? 10 ds).map fun n => -Int.ofNat n
  | ds => (readNat? 10 ds).map Int.ofNat

/-- The number as a word of 32 bits with a sign, if it fits. -/
def toInt32? (n : Int) : Option Int32 :=
  if -2147483648 ≤ n ∧ n ≤ 2147483647 then some (Int32.ofInt n) else none

/-- Whether a number fits in 64 bits with a sign. -/
def fits64 (n : Int) : Bool :=
  -9223372036854775808 ≤ n && n ≤ 9223372036854775807

/-- The signed number of at most 32 bits that a text writes. -/
def readInt32? (s : String) : Option Int32 :=
  (readInt? s.toList).bind toInt32?

/-- The character with a given number, if there is one. -/
def scalar? (n : Nat) : Option Char :=
  if n.isValidChar then some (Char.ofNat n) else none

/-- A number in decimal. -/
def writeInt : Int → String
  | .ofNat n => toString n
  | .negSucc n => "-" ++ toString (n + 1)

/-- A number in decimal with at least a given count of digits. -/
def writePadded (width n : Nat) : String :=
  let digits := toString n
  String.ofList (List.replicate (width - digits.length) '0') ++ digits

end Text
end Activation
