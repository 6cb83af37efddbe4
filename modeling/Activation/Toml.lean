import Activation.Toml.Value

/-!
# TOML documents

A document is a list of lines.  A line may be empty, may hold a pair of a key and
a value, or may hold a header: a key in brackets opens a table, and a key in
doubled brackets opens a further table of a series.  The pairs after a header
belong to the table that it opened, the pairs before the first header to the
document itself.  A value may go over several lines.

A byte order mark at the beginning of a document is skipped.
-/

namespace Activation
namespace Toml

/-- What a line of a document says. -/
inductive Statement where
  /-- A key has a value. -/
  | pair (key : List String) (value : Data)
  /-- A table is opened. -/
  | openTable (key : List String)
  /-- A further table of a series is opened. -/
  | extendSeries (key : List String)

/-- The statement at the beginning of a line, and what follows it. -/
def statement? : List Char → Option (Statement × List Char)
  | '[' :: '[' :: rest =>
    match key? rest with
    | some (key, ']' :: ']' :: rest) => some (.extendSeries key, rest)
    | _ => none
  | '[' :: rest =>
    match key? rest with
    | some (key, ']' :: rest) => some (.openTable key, rest)
    | _ => none
  | cs => (pair? value? cs).map fun read => (.pair read.1.1 read.1.2, read.2)

/-- A line of a document, which may be empty, and what follows it. -/
def line? (cs : List Char) : Option (Option Statement × List Char) :=
  match lineEnd? cs with
  | some rest => some (none, rest)
  | none =>
    match statement? (skipBlanks cs) with
    | none => none
    | some (statement, rest) => (lineEnd? rest).map fun rest => (some statement, rest)

/-- The statements of a document. -/
def statements? (cs : List Char) : Option (List Statement) :=
  if cs.isEmpty then some []
  else
    match line? cs with
    | none => none
    | some (statement, rest) =>
      if rest.length < cs.length then
        (statements? rest).map fun more => statement.toList ++ more
      else none
termination_by cs.length

/-- A document as far as it has been read. -/
structure Draft where
  /-- The document itself. -/
  root : Table := []
  /-- The path of the table that the latest header opened. -/
  place : List String := []

/-- A draft after a further statement. -/
def Draft.add? (draft : Draft) : Statement → Option Draft
  | .pair key value =>
    (draft.root.along? (Table.put? value true key) draft.place).map fun root => { draft with root }
  | .openTable key =>
    (draft.root.along? (Table.openHere? (key.getLast?.getD "")) key.dropLast).map
      fun root => ⟨root, key⟩
  | .extendSeries key =>
    (draft.root.along? (Table.extendHere? (key.getLast?.getD "")) key.dropLast).map
      fun root => ⟨root, key⟩

/-- A document without its byte order mark. -/
def dropMark : List Char → List Char
  | '\uFEFF' :: rest => rest
  | cs => cs

/-- The data that a document writes. -/
def read? (text : String) : Option Data := do
  let statements ← statements? (dropMark text.toList)
  let draft ← statements.foldlM Draft.add? {}
  some draft.root.data

end Toml
end Activation
