import Activation.Text.Blank
import Activation.Text.Letters

/-!
# The modes of the pre-filter

How the pre-filter shares its work between processors.  The mode never changes
what the pre-filter answers.
-/

namespace Activation

/-- How the work of the pre-filter is shared. -/
inductive PrefilterMode where
  /-- In two halves if there is more than one processor. -/
  | auto
  /-- All in one go. -/
  | serial
  /-- In two halves. -/
  | parallel
  deriving DecidableEq, Repr

namespace PrefilterMode

/-- Every mode. -/
def all : List PrefilterMode := [auto, serial, parallel]

/-- The word for a mode. -/
def word : PrefilterMode → String
  | auto => "auto"
  | serial => "serial"
  | parallel => "parallel"

/-- The mode with a given word, spelled exactly. -/
def ofWord? (word : String) : Option PrefilterMode :=
  all.find? (·.word == word)

/-- The mode that a text names, blanks and letter case aside. -/
def read? (text : String) : Option PrefilterMode :=
  ofWord? (Text.lowerAscii (Text.trim text))

/-- What is said about a text that names no mode. -/
def unknown (text : String) : String :=
  "Unknown pre-filter mode: " ++ text ++ " (expected auto, serial or parallel)"

@[simp] theorem ofWord?_word (mode : PrefilterMode) : ofWord? mode.word = some mode := by
  cases mode <;> decide

end PrefilterMode
end Activation
