import Sieve.Value

/-!
# Sieve.Entity

The things predicates are asked about: graphs of nulls, scalars, lists, maps and records. Entries of
a map are looked up by their exact key, members of a record by their name without regard to the case
of ASCII letters; of several that fit, the first counts.
-/

namespace Sieve

inductive Entity where
  | null
  | leaf (s : Scalar)
  | list (items : List Entity)
  | map (entries : List (String × Entity))
  | record (members : List (String × Entity))

namespace Entity

instance : Inhabited Entity := ⟨.null⟩

mutual

/-- A document as an entity: its objects are maps. -/
def ofJson : Json → Entity
  | .null => .null
  | .array items => .list (ofJsonItems items)
  | .object members => .map (ofJsonMembers members)
  | j =>
    match Value.ofJson? j with
    | some (.scalar s) => .leaf s
    | _ => .null

def ofJsonItems : List Json → List Entity
  | [] => []
  | j :: js => ofJson j :: ofJsonItems js

def ofJsonMembers : List (String × Json) → List (String × Entity)
  | [] => []
  | (key, j) :: ms => (key, ofJson j) :: ofJsonMembers ms

end

mutual

def ofValue : Value → Entity
  | .null => .null
  | .scalar s => .leaf s
  | .list items => .list (ofValues items)

def ofValues : List Value → List Entity
  | [] => []
  | v :: vs => ofValue v :: ofValues vs

end

end Entity

end Sieve
