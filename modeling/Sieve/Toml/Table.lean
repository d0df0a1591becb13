import Sieve.Toml

/-!
# Sieve.Toml.Table

Tables under construction. A table is opened once: by its own header, by dotted keys, or implied by
the headers of tables inside it; only an implied table may still get a header, and only dotted keys
add to a table that dotted keys made.

* `Node.enter` goes down a path, making the tables that are missing.
* `Node.insertPair` adds a key with its value, `Node.addSection` a header with the pairs below it.
-/

namespace Sieve
namespace Toml

inductive Node where
  | value (v : Toml)
  /-- A table; `implied` if it has no header of its own, `dotted` if dotted keys made it. -/
  | table (implied dotted : Bool) (entries : List (String × Node))
  /-- The tables of an array, in order. -/
  | tables (elements : List (List (String × Node)))

namespace Node

instance : Inhabited Node := ⟨.tables []⟩

/-- Replaces the last element of a list. -/
def mapLast? (f : α → Option α) : List α → Option (List α)
  | [] => none
  | [a] => (f a).map fun b => [b]
  | a :: as => (mapLast? f as).map (a :: ·)

/-- Changes the table at the end of a path by `f`, which is told whether dotted keys made that
table. With `dotted` the path is part of a dotted key and passes no table that has a header. -/
def enter (dotted : Bool) (f : Bool → Entries Node → Option (Entries Node)) :
    List String → Bool → Entries Node → Option (Entries Node)
  | [], made, entries => f made entries
  | key :: path, _, entries =>
    match entries.get? key with
    | none =>
      (enter dotted f path dotted []).map fun inner => entries.insert key (.table true dotted inner)
    | some (.value _) => none
    | some (.tables elements) =>
      (mapLast? (enter dotted f path false) elements).map fun changed =>
        entries.insert key (.tables changed)
    | some (.table implied made inner) =>
      if dotted && !implied then none
      else
        (enter dotted f path made inner).map fun changed =>
          entries.insert key (.table implied made changed)

/-- Adds a key to a table. The table has to be the one where the keys are written, or one that
dotted keys made. -/
def insertKey (path : List String) (key : String) (v : Toml) (made : Bool)
    (entries : Entries Node) : Option (Entries Node) :=
  if made == path.isEmpty then none
  else
    match entries.get? key with
    | some _ => none
    | none => some (entries.insert key (.value v))

/-- Adds a value under a dotted key. -/
def insertPair (entries : Entries Node) (keys : List String) (v : Toml) : Option (Entries Node) :=
  match keys.getLast? with
  | none => none
  | some key =>
    let path := keys.dropLast
    enter true (insertKey path key v) path false entries

def insertPairs (entries : Entries Node) : List (List String × Toml) → Option (Entries Node)
  | [] => some entries
  | (keys, v) :: more =>
    match insertPair entries keys v with
    | none => none
    | some entries => insertPairs entries more

/-- A table of its own header with the pairs below it. -/
def openTable (key : String) (pairs : List (List String × Toml)) (entries : Entries Node) :
    Option (Entries Node) :=
  let opened := fun base =>
    (insertPairs base pairs).map fun inner => entries.insert key (.table false false inner)
  match entries.get? key with
  | none => opened []
  | some (.table true false base) => opened base
  | some _ => none

/-- One more element of an array of tables. -/
def openElement (key : String) (pairs : List (List String × Toml)) (entries : Entries Node) :
    Option (Entries Node) :=
  let added := fun elements =>
    (insertPairs [] pairs).map fun inner => entries.insert key (.tables (elements ++ [inner]))
  match entries.get? key with
  | none => added []
  | some (.tables elements) => added elements
  | some _ => none

/-- Adds the section of a header; `element` if the header is of an array of tables. -/
def addSection (entries : Entries Node) (element : Bool) (keys : List String)
    (pairs : List (List String × Toml)) : Option (Entries Node) :=
  match keys.getLast? with
  | none => none
  | some key =>
    let add := if element then openElement key pairs else openTable key pairs
    enter false (fun _ => add) keys.dropLast false entries

mutual

def toToml : Node → Toml
  | .value v => v
  | .table _ _ entries => .table (toTomlEntries entries)
  | .tables elements => .array (toTomlElements elements)

def toTomlEntries : List (String × Node) → List (String × Toml)
  | [] => []
  | (key, n) :: more => (key, toToml n) :: toTomlEntries more

def toTomlElements : List (List (String × Node)) → List Toml
  | [] => []
  | entries :: more => .table (toTomlEntries entries) :: toTomlElements more

end

end Node
end Toml
end Sieve
