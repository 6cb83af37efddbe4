import Activation.Text.Blank

/-!
# Comma-separated items

Several names in one value are separated by commas.  The blanks around an item
do not belong to it, and an item with nothing but blanks is no item, so a
trailing comma or a doubled one is harmless.
-/

namespace Activation
namespace Text

/-- The pieces of a text between its commas; there is always at least one. -/
def pieces : List Char → List (List Char)
  | [] => [[]]
  | ',' :: rest => [] :: pieces rest
  | c :: rest =>
    match pieces rest with
    | [] => [[c]]
    | piece :: more => (c :: piece) :: more

/-- The items of a comma-separated text, in order and with repetitions. -/
def items (s : String) : List String :=
  ((pieces s.toList).map strip).filter (fun piece => !piece.isEmpty) |>.map String.ofList

end Text
end Activation
