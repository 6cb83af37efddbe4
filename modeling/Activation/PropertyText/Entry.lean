import Activation.PropertyText.Escape
import Activation.PropertyText.Layout

/-!
# The entries of property text

A logical line holds a key and a value.  The key ends at the first separator
that no backslash escapes: `=`, `:`, a space, a tab or a form feed.  One `=` or
`:` between key and value, and the blanks around it, belong to neither.  The
value is the rest of the line, its trailing blanks included.

Entries are kept in order and with repetitions; whoever reads them decides which
of two entries for one key counts.  `writeEntries` is the plain way to write
entries down: one line each, escaped, with a bare `=` in the middle.
-/

namespace Activation
namespace PropertyText

/-- The blanks that separate a key from its value. -/
def isGap (c : Char) : Bool :=
  c == ' ' || c == '\t' || c == formFeed

/-- The marks that separate a key from its value. -/
def isMark (c : Char) : Bool :=
  c == '=' || c == ':'

/-- The key at the beginning of a line, still escaped, and what follows it. -/
def splitKey : List Char → List Char × List Char
  | [] => ([], [])
  | '\\' :: c :: rest =>
    let (key, value) := splitKey rest
    ('\\' :: c :: key, value)
  | c :: rest =>
    if isMark c || isGap c then ([], c :: rest)
    else
      let (key, value) := splitKey rest
      (c :: key, value)

/-- What follows a key, without the separator. -/
def dropSeparator (rest : List Char) : List Char :=
  match rest.dropWhile isGap with
  | [] => []
  | c :: value => if isMark c then value.dropWhile isGap else c :: value

/-- The entry on a logical line; a blank line has none. -/
def readEntry? (line : List Char) : Option (String × String) :=
  match Text.stripStart line with
  | [] => none
  | text =>
    let (key, rest) := splitKey text
    some (String.ofList (unescape key), String.ofList (unescape (dropSeparator rest)))

/-- The entries of a text, in order and with repetitions. -/
def readEntries (text : String) : List (String × String) :=
  (logicalLines text.toList).filterMap readEntry?

/-- The line that writes an entry. -/
def writeEntry (entry : String × String) : List Char :=
  escape entry.1.toList ++ '=' :: escape entry.2.toList

/-- The text that writes entries, one line each. -/
def writeEntries (entries : List (String × String)) : String :=
  String.ofList (List.intercalate ['\n'] (entries.map writeEntry))

end PropertyText
end Activation
