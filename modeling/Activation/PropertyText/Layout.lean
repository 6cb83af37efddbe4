import Activation.Text.Blank
import Activation.Text.Lines

/-!
# The layout of property text

An entry stands on one logical line, and a logical line may be folded over
several physical ones: a line with an odd number of backslashes at its end goes
on in the next line, whose leading blanks do not count.  Blank lines, and comment
lines, which begin with `#` or `!`, are skipped, but only where no line is being
continued; inside a folded line they are text like any other.

The walk over the physical lines carries one thing, the logical line that is
still open, if there is one.
-/

namespace Activation
namespace PropertyText

/-- Whether a line is blank or a comment. -/
def isRemark (line : List Char) : Bool :=
  match Text.stripStart line with
  | [] => true
  | c :: _ => c == '#' || c == '!'

/-- Whether a line goes on in the next one: it ends in an odd number of
backslashes. -/
def isFolded (line : List Char) : Bool :=
  (line.reverse.takeWhile (· == '\\')).length % 2 == 1

/-- The logical lines that follow, given the beginning of the one still open. -/
def joinLines : Option (List Char) → List (List Char) → List (List Char)
  | none, [] => []
  | some opened, [] => if opened.isEmpty then [] else [opened]
  | none, line :: more =>
    if isRemark line then joinLines none more
    else if isFolded line then joinLines (some line.dropLast) more
    else line :: joinLines none more
  | some opened, line :: more =>
    let rest := Text.stripStart line
    if isFolded rest then joinLines (some (opened ++ rest.dropLast)) more
    else (opened ++ rest) :: joinLines none more

/-- The logical lines of a text. -/
def logicalLines (text : List Char) : List (List Char) :=
  joinLines none (Text.lines text)

end PropertyText
end Activation
