/-!
# Blanks

Names, words and values are read with the white space around them removed.  The
white space meant here is the Unicode property `White_Space`, which is wider than
the four characters of ASCII and narrower than "looks empty": a no-break space
is blank, a zero-width space is not.

Everything is stated on lists of characters, where removing blanks is
`dropWhile`; `trim` is the same on a `String`.
-/

namespace Activation
namespace Text

/-- The characters of the Unicode property `White_Space`. -/
def isBlank (c : Char) : Bool :=
  let n := c.toNat
  (0x09 ≤ n && n ≤ 0x0D) || n == 0x20 || n == 0x85 || n == 0xA0 || n == 0x1680 ||
    (0x2000 ≤ n && n ≤ 0x200A) || n == 0x2028 || n == 0x2029 || n == 0x202F ||
    n == 0x205F || n == 0x3000

/-- The characters from the first one that is not blank. -/
def stripStart (cs : List Char) : List Char :=
  cs.dropWhile isBlank

/-- The characters up to the last one that is not blank. -/
def stripEnd (cs : List Char) : List Char :=
  (cs.reverse.dropWhile isBlank).reverse

/-- The characters without the blanks on either side. -/
def strip (cs : List Char) : List Char :=
  stripEnd (stripStart cs)

/-- A text without the blanks on either side. -/
def trim (s : String) : String :=
  String.ofList (strip s.toList)

/-- Whether a text has no character that is not blank. -/
def isBlankText (s : String) : Bool :=
  s.toList.all isBlank

end Text
end Activation
