/-!
# Tables

What a TOML document says, as a tree of tables. A table grows only in the way in which it was begun:
one begun by a dotted key by dotted keys, one with a header of its own only below that header, and a
table that is written as a value not at all. A key is given once.
-/

namespace Stencil.Toml

/-- A value. Of most kinds only the kind is known here. -/
inductive Value where
  | text (text : String)
  | integer (value : Int)
  /-- A number that no machine number holds. -/
  | unrepresentable
  | other
deriving DecidableEq, Repr

/-- How a table was begun. -/
inductive Origin where
  /-- By the header of a table inside it. -/
  | implied
  | dotted
  | header
deriving DecidableEq, Repr

/-- What stands under a key. -/
inductive Item where
  | value (value : Value)
  | table (origin : Origin) (entries : List (String × Item))
  /-- Tables under one header, the latest first. -/
  | tables (current : List (String × Item)) (earlier : List (List (String × Item)))

/-- The entries of a table in the order in which they were begun. -/
abbrev Entries := List (String × Item)

namespace Entries

/-- The entries with another item under a key that is there. -/
def replace (key : String) (item : Item) (entries : Entries) : Entries :=
  entries.map fun (name, old) => if name = key then (name, item) else (name, old)

/-- The entries with an item under a new key. -/
def add? (key : String) (item : Item) (entries : Entries) : Option Entries :=
  match entries.lookup key with
  | some _ => none
  | none => some (entries ++ [(key, item)])

/-- The entries after a change of the table at a path, which is begun if it is not there. A dotted
path may not enter a table that has a header. -/
def changeAt? (begun : Origin) (change : Origin → Entries → Option Entries) :
    (path : List String) → Origin → Entries → Option Entries
  | [], origin, entries => change origin entries
  | key :: path, _, entries =>
    match entries.lookup key with
    | none => do
      let inner ← changeAt? begun change path begun []
      some (entries ++ [(key, .table begun inner)])
    | some (.table origin inner) =>
      if begun = .dotted ∧ origin = .header then none
      else (changeAt? begun change path origin inner).map fun inner =>
        entries.replace key (.table origin inner)
    | some (.tables current earlier) =>
      (changeAt? begun change path .header current).map fun current =>
        entries.replace key (.tables current earlier)
    | some (.value _) => none

/-- The entries after a value under a dotted key, whose last part is given apart. A value joins only
tables that dotted keys began. -/
def assign? (path : List String) (key : String) (value : Value) (entries : Entries) :
    Option Entries :=
  entries.changeAt? .dotted (fun origin inner =>
    if (origin = .dotted) = (path ≠ []) then inner.add? key (.value value) else none) path .header

/-- The entries after the header of a table. -/
def openTable? (path : List String) (key : String) (entries : Entries) : Option Entries :=
  entries.changeAt? .implied (fun _ inner =>
    match inner.lookup key with
    | none => inner.add? key (.table .header [])
    | some (.table .implied below) => some (inner.replace key (.table .header below))
    | some _ => none) path .header

/-- The entries after the header of a further table under one key. -/
def openNext? (path : List String) (key : String) (entries : Entries) : Option Entries :=
  entries.changeAt? .implied (fun _ inner =>
    match inner.lookup key with
    | none => inner.add? key (.tables [] [])
    | some (.tables current earlier) =>
      some (inner.replace key (.tables [] (current :: earlier)))
    | some _ => none) path .header

/-- The entries after a value under a dotted key in the table at a path. -/
def assignIn? (table path : List String) (key : String) (value : Value) (entries : Entries) :
    Option Entries :=
  entries.changeAt? .implied (fun _ inner => inner.assign? path key value) table .header

end Entries

end Stencil.Toml
