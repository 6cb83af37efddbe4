/-!
# The variables of a process

A process hands its variables over in one block of bytes: for each of them its name,
an equals sign and its value, and a zero byte after it.  The first byte of a variable
belongs to its name whatever it is, and a piece with no equals sign after it is no
variable and is passed over.

Names and values are bytes like any other.  They are variables to this program only if
all of them are texts in UTF-8; a single one that is not spoils the block.
-/

namespace Activation
namespace Variables

/-- The byte that stands between a name and its value. -/
def equalsSign : UInt8 := 0x3D

/-- The pieces of a block that zero bytes end. -/
def pieces : List UInt8 → List (List UInt8)
  | [] => []
  | byte :: rest =>
    if byte = 0 then [] :: pieces rest
    else
      match pieces rest with
      | [] => [[byte]]
      | piece :: more => (byte :: piece) :: more

/-- The name and the value in a piece, if it is a variable. -/
def split? : List UInt8 → Option (List UInt8 × List UInt8)
  | [] => none
  | first :: rest =>
    if equalsSign ∈ rest then
      some (first :: rest.takeWhile (· != equalsSign),
        (rest.dropWhile (· != equalsSign)).drop 1)
    else none

/-- The names and the values in a block. -/
def pairs (block : List UInt8) : List (List UInt8 × List UInt8) :=
  (pieces block).filterMap split?

/-- The text that bytes are in UTF-8, if they are one. -/
def text? (bytes : List UInt8) : Option String :=
  String.fromUTF8? bytes.toByteArray

/-- A name and a value as texts, if both of them are. -/
def texts? (pair : List UInt8 × List UInt8) : Option (String × String) :=
  (text? pair.1).bind fun name => (text? pair.2).map fun value => (name, value)

/-- The variables in a block; none if one of them is no text. -/
def ofBlock? (block : List UInt8) : Option (List (String × String)) :=
  (pairs block).mapM texts?

end Variables
end Activation
