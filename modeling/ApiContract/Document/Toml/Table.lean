/-
Tables while a settings file is read. A table that a header made, one that a
longer header or a dotted key implied, and an array of tables differ in what
may be added to them later: a header may take over what a longer header
implied, and a dotted key may only reach into tables that dotted keys made.
-/
import ApiContract.Document.Toml.Value

namespace ApiContract.Toml

/-- What made a table. -/
inductive Origin where
  | header
  | longerHeader
  | dottedKey
  deriving DecidableEq, Repr

/-- An entry while the file is read. -/
inductive Item where
  | value (v : Value)
  | table (origin : Origin) (items : List (String × Item))
  | tables (all : List (List (String × Item)))
  deriving Repr

/-- The entries of a table while the file is read. -/
abbrev Items := List (String × Item)

mutual

/-- The value of an entry. -/
def Item.toValue : Item → Value
  | .value v => v
  | .table _ items => .table (tableOf items)
  | .tables all => .array (arrayOf all)

/-- The entries of a table. -/
def tableOf : List (String × Item) → Table
  | [] => []
  | (k, i) :: rest => (k, i.toValue) :: tableOf rest

/-- The tables of an array. -/
def arrayOf : List (List (String × Item)) → List Value
  | [] => []
  | t :: ts => .table (tableOf t) :: arrayOf ts

end

-- ============================================================== changes

/-- An entry replaced, or added at the end. -/
def replace (key : String) (i : Item) : Items → Items
  | [] => [(key, i)]
  | (k, old) :: rest =>
    if k = key then (k, i) :: rest else (k, old) :: replace key i rest

/-- A change in the table that a path leads to, given the origin of that
table. Tables on the way that are missing are implied. A dotted key does not
go through a table with a header. -/
def changeAt (dotted : Bool) (f : Origin → Items → Option Items) :
    List String → Origin → Items → Option Items
  | [], origin, items => f origin items
  | key :: path, _, items =>
    match items.lookup key with
    | none => do
      let origin := if dotted then Origin.dottedKey else .longerHeader
      let new ← changeAt dotted f path origin []
      return replace key (.table origin new) items
    | some (.value _) => none
    | some (.table origin inner) => do
      if dotted && origin = .header then failure
      let inner ← changeAt dotted f path origin inner
      return replace key (.table origin inner) items
    | some (.tables all) => do
      let last ← changeAt dotted f path .header (all.getLast?.getD [])
      return replace key (.tables (all.dropLast ++ [last])) items

/-- A new entry under a dotted key. Each name is given once, and the table
that takes the entry is the current one or one that dotted keys made. -/
def addEntry (key : List String) (v : Value) (items : Items) :
    Option Items := do
  let path := key.dropLast
  let name ← key.getLast?
  changeAt true (fun origin inner =>
    if !path.isEmpty && origin ≠ .dottedKey then none
    else if (inner.lookup name).isSome then none
    else some (inner ++ [(name, .value v)])) path .header items

/-- A new entry under a dotted key, in the table under a header. -/
def addEntryUnder (header key : List String) (v : Value) (items : Items) :
    Option Items :=
  changeAt false (fun _ inner => addEntry key v inner) header .header items

/-- A header for one table. One that a longer header implied before comes to
stand where its own header does, at the end. -/
def openTable (header : List String) (items : Items) : Option Items := do
  let name ← header.getLast?
  changeAt false (fun _ inner =>
    match inner.lookup name with
    | none => some (inner ++ [(name, .table .header [])])
    | some (.table .longerHeader old) =>
      some (inner.filter (·.1 ≠ name) ++ [(name, .table .header old)])
    | some _ => none) header.dropLast .header items

/-- A header for one more table of an array. -/
def openTables (header : List String) (items : Items) : Option Items := do
  let name ← header.getLast?
  changeAt false (fun _ inner =>
    match inner.lookup name with
    | none => some (inner ++ [(name, .tables [[]])])
    | some (.tables all) => some (replace name (.tables (all ++ [[]])) inner)
    | some _ => none) header.dropLast .header items

end ApiContract.Toml
