/-!
# Letters without their case

Words such as `true`, `serial` or `SERVLET` are recognised whatever the case of
their letters.  Only the letters of ASCII have a case here: the long s is not an
s, and the Kelvin sign is not a k.
-/

namespace Activation
namespace Text

/-- A text with the letters `A` to `Z` replaced by `a` to `z`. -/
def lowerAscii (s : String) : String :=
  String.ofList (s.toList.map Char.toLower)

/-- Whether two texts are equal up to the case of ASCII letters. -/
def sameLetters (s t : String) : Bool :=
  s.toList.map Char.toLower == t.toList.map Char.toLower

end Text
end Activation
