/-!
# Tables of a settings text

A settings text builds one table. Its nodes are plain values, arrays, tables and lists of tables,
and a table remembers how it came about, because that decides what may still be added to it:

* a table opened by a header is complete when the next header comes;
* a table implied by a longer header may still be opened by its own header, once;
* a table implied by a dotted key may be extended by further dotted keys;
* an inline table is a value, and nothing is added to it.

`Builder` keeps the root, the table that key-value lines go to, and the place where that table
belongs. The table under construction is put into its parent when the next header or the end comes.
-/

namespace DocumentProtocol.Toml

/-- How a table came about. -/
inductive Origin where
  /-- Opened by a header. -/
  | header
  /-- Implied by a longer header. -/
  | implied
  /-- Implied by a dotted key. -/
  | dotted
  /-- Written as a value. -/
  | inline
  deriving DecidableEq, Repr

/-- What can stand under a key. -/
inductive Node where
  | string (text : String)
  | integer (number : Int)
  | float
  | boolean (flag : Bool)
  | dateTime
  | array (items : List Node)
  | table (origin : Origin) (entries : List (String × Node))
  /-- The tables opened by headers in double brackets, in order. -/
  | tables (elements : List (List (String × Node)))
  deriving Inhabited

abbrev Entries := List (String × Node)

namespace Entries

def hasKey (entries : Entries) (key : String) : Bool := (entries.lookup key).isSome

def add? (entries : Entries) (key : String) (node : Node) : Option Entries :=
  if entries.hasKey key then none else some (entries ++ [(key, node)])

/-- Puts a node under a key: in place of the node that is there, else at the end. -/
def set : Entries → String → Node → Entries
  | [], key, node => [(key, node)]
  | (name, old) :: rest, key, node =>
      if name = key then (key, node) :: rest else (name, old) :: set rest key node

def remove (entries : Entries) (key : String) : Entries :=
  entries.filter fun entry => entry.1 ≠ key

/-- Replaces the last of a list of tables. -/
def updateLast? (update : Entries → Option Entries) : List Entries → Option (List Entries)
  | [] => none
  | [last] => (update last).map fun last => [last]
  | first :: rest => (updateLast? update rest).map (first :: ·)

/--
Adds an entry under a dotted key: the tables on the way are those that dotted keys implied before,
or new ones. The table that receives the entry must itself come from a dotted key.
-/
def addDotted? (key : String) (node : Node) : (path : List String) → Entries → Option Entries
  | [], entries => entries.add? key node
  | first :: rest, entries =>
      match entries.lookup first with
      | none =>
          (addDotted? key node rest []).map fun inner => entries.set first (.table .dotted inner)
      | some (.table .dotted inner) =>
          (addDotted? key node rest inner).map fun inner => entries.set first (.table .dotted inner)
      | some (.table .implied inner) =>
          if rest = [] then none
          else
            (addDotted? key node rest inner).map fun inner =>
              entries.set first (.table .implied inner)
      | some (.tables elements) =>
          if rest = [] then none
          else
            (updateLast? (addDotted? key node rest) elements).map fun elements =>
              entries.set first (.tables elements)
      | some _ => none

/--
Changes the table that the path of a header leads to. Tables that are missing on the way are
implied; a list of tables stands for its last table; values block the way.
-/
def atPath? (update : Entries → Option Entries) : (path : List String) → Entries → Option Entries
  | [], entries => update entries
  | first :: rest, entries =>
      match entries.lookup first with
      | none => (atPath? update rest []).map fun inner => entries.set first (.table .implied inner)
      | some (.table origin inner) =>
          if origin = .inline then none
          else (atPath? update rest inner).map fun inner => entries.set first (.table origin inner)
      | some (.tables elements) =>
          (updateLast? (atPath? update rest) elements).map fun elements =>
            entries.set first (.tables elements)
      | some _ => none

def find (path : List String) (entries : Entries) : Entries :=
  match path with
  | [] => entries
  | first :: rest =>
      match entries.lookup first with
      | some (.table _ inner) => find rest inner
      | some (.tables elements) => find rest (elements.getLast?.getD [])
      | _ => []

end Entries

/-- Where the table under construction belongs. -/
structure Place where
  isElement : Bool
  path : List String
  key : String

/-- A root table under construction. -/
structure Builder where
  root : Entries := []
  current : Entries := []
  place : Option Place := none

namespace Builder

def finish? (builder : Builder) : Option Entries :=
  match builder.place with
  | none => some builder.current
  | some place =>
      builder.root.atPath? (fun parent =>
        if place.isElement then
          match parent.lookup place.key with
          | some (.tables elements) =>
              some (Entries.set parent place.key (.tables (elements ++ [builder.current])))
          | _ => none
        else parent.add? place.key (.table .header builder.current)) place.path

def openTable? (builder : Builder) (path : List String) (key : String) : Option Builder := do
  let root ← builder.finish?
  let root ← root.atPath? some path
  match (root.find path).lookup key with
  | none => return ⟨root, [], some ⟨false, path, key⟩⟩
  | some (.table .implied entries) =>
      let root ← root.atPath? (fun parent => some (parent.remove key)) path
      return ⟨root, entries, some ⟨false, path, key⟩⟩
  | some _ => none

def openElement? (builder : Builder) (path : List String) (key : String) : Option Builder := do
  let root ← builder.finish?
  let root ← root.atPath? (fun parent =>
    match parent.lookup key with
    | none => some (Entries.set parent key (.tables []))
    | some (.tables elements) => some (Entries.set parent key (.tables elements))
    | some _ => none) path
  return ⟨root, [], some ⟨true, path, key⟩⟩

def add? (builder : Builder) (path : List String) (key : String) (node : Node) : Option Builder :=
  (builder.current.addDotted? key node path).map fun current => { builder with current := current }

end Builder

end DocumentProtocol.Toml
