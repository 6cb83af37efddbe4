import Activation.Data

/-!
# Tables of a TOML document

The tables of a document are filled piece by piece.  A table may have come about
in three ways: under a header of its own, in passing, as a header named a table
within it, or through a dotted key.  The first may not be opened again; the second
may be opened once; the third may be added to by further dotted keys only.

Tables under a doubled header make a series, and whatever is put into a series is
put into its last table.  Everything else is a leaf, which is complete as it is;
this holds for lists and for tables between braces, too.
-/

namespace Activation
namespace Toml

/-- How a table came about. -/
inductive Origin where
  /-- Under a header of its own. -/
  | header
  /-- In passing, since a header named a table within it. -/
  | passage
  /-- Through a dotted key. -/
  | dotted
  deriving DecidableEq, Repr

/-- What stands under a key while a document is read. -/
inductive Entry where
  /-- A complete value. -/
  | leaf (value : Data)
  /-- A table. -/
  | table (origin : Origin) (entries : List (String × Entry))
  /-- A series of tables, of which there is at least one. -/
  | series (earlier : List (List (String × Entry))) (last : List (String × Entry))

/-- A table while a document is read. -/
abbrev Table := List (String × Entry)

mutual

/-- An entry as a datum. -/
def Entry.data : Entry → Data
  | .leaf value => value
  | .table _ entries => .record (entryFields entries)
  | .series earlier last => .list (entryRecords earlier ++ [.record (entryFields last)])

/-- The entries of a table as fields. -/
def entryFields : List (String × Entry) → List (String × Data)
  | [] => []
  | (key, entry) :: rest => (key, entry.data) :: entryFields rest

/-- Tables as records. -/
def entryRecords : List (List (String × Entry)) → List Data
  | [] => []
  | table :: rest => .record (entryFields table) :: entryRecords rest

end

namespace Table

/-- A table as a datum. -/
def data (table : Table) : Data :=
  .record (entryFields table)

/-- A table with an entry under a key: in the place of the entry that stands
there, or at the end. -/
def set (table : Table) (key : String) (entry : Entry) : Table :=
  if table.any (·.1 == key) then
    table.map fun old => if old.1 = key then (key, entry) else old
  else table ++ [(key, entry)]

/-- A table changed further down, within the table under a key.  If nothing stands
under the key, a table comes about in passing. -/
def within? (change : Table → Option Table) (table : Table) (key : String) : Option Table :=
  match table.lookup key with
  | none => (change []).map fun inner => table.set key (.table .passage inner)
  | some (.table origin inner) =>
    (change inner).map fun inner => table.set key (.table origin inner)
  | some (.series earlier last) =>
    (change last).map fun last => table.set key (.series earlier last)
  | some (.leaf _) => none

/-- A table changed at the end of a path. -/
def along? (change : Table → Option Table) : List String → Table → Option Table
  | [], table => change table
  | key :: path, table => within? (along? change path) table key

/-- A table in which a table under a key is opened by a header. -/
def openHere? (key : String) (table : Table) : Option Table :=
  match table.lookup key with
  | none => some (table.set key (.table .header []))
  | some (.table .passage inner) => some (table.set key (.table .header inner))
  | some _ => none

/-- A table in which a further table of a series under a key is opened. -/
def extendHere? (key : String) (table : Table) : Option Table :=
  match table.lookup key with
  | none => some (table.set key (.series [] []))
  | some (.series earlier last) => some (table.set key (.series (earlier ++ [last]) []))
  | some _ => none

/-- A table with a value under a dotted key.  The value may be put right here only
if this is where the key begins or if the table came about through a dotted key;
and on the way there, no table may be entered that has a header of its own. -/
def put? (value : Data) : Bool → List String → Table → Option Table
  | _, [], _ => none
  | here, [key], table =>
    if here && !table.any (·.1 == key) then some (table.set key (.leaf value)) else none
  | _, key :: path, table =>
    match table.lookup key with
    | none => (put? value true path []).map fun inner => table.set key (.table .dotted inner)
    | some (.table .header _) => none
    | some (.table origin inner) =>
      (put? value (origin == .dotted) path inner).map fun inner =>
        table.set key (.table origin inner)
    | some (.series earlier last) =>
      (put? value false path last).map fun last => table.set key (.series earlier last)
    | some (.leaf _) => none

/-- The table with the given dotted keys and values. -/
def ofPairs? (pairs : List (List String × Data)) : Option Table :=
  pairs.foldlM (fun table pair => put? pair.2 true pair.1 table) []

end Table
end Toml
end Activation
