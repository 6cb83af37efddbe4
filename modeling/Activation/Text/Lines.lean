/-!
# Lines

A line ends at a line feed, and a carriage return just before that line feed
belongs to the line end.  A carriage return anywhere else, also one that ends
the text, is an ordinary character.  A line feed at the very end of the text
closes the last line and opens no further one.
-/

namespace Activation
namespace Text

/-- The lines of a text, without their ends. -/
def lines : List Char → List (List Char)
  | [] => []
  | '\r' :: '\n' :: rest => [] :: lines rest
  | '\n' :: rest => [] :: lines rest
  | c :: rest =>
    match lines rest with
    | [] => [[c]]
    | line :: more => (c :: line) :: more

end Text
end Activation
