import Sieve.Entity
import Sieve.Predicate
import Sieve.Text.Ascii

/-!
# Sieve.Entity.Resolve

What the names of a path lead to in an entity. A list is entered by all its items at once, whatever
the depth of lists in lists; an item in which the path leads nowhere counts as null there.

* `resolve` follows a path, `resolveItems` follows it in every item of a list.
* `findings_list`: the findings of a list are those of its items, in order.
-/

namespace Sieve

/-- What stands at the end of a path. -/
inductive Found where
  | null
  | scalar (s : Scalar)
  | composite

inductive Resolved where
  | one (found : Found)
  | many (found : List Found)

/-- Why a path leads nowhere, with the name that could not be followed. -/
inductive ResolveFault where
  | missing (segment : String)
  | pastNull (segment : String)
  | pastScalar (segment : String)

def ResolveFault.message (path : String) : ResolveFault → String
  | .missing segment => "field '" ++ segment ++ "' not found while resolving '" ++ path ++ "'"
  | .pastNull segment =>
    "cannot descend into '" ++ segment ++ "' of '" ++ path ++ "': value is null"
  | .pastScalar segment =>
    "cannot descend into '" ++ segment ++ "' of '" ++ path ++ "': value is not a record or map"

namespace Entity

/-- The findings of one item of a list. -/
def itemFindings : Except ResolveFault Resolved → List Found
  | .ok (.one f) => [f]
  | .ok (.many fs) => fs
  | .error _ => [.null]

mutual

def resolve (segments : List String) : Entity → Except ResolveFault Resolved
  | .list items => .ok (.many (resolveItems segments items))
  | .null =>
    match segments with
    | [] => .ok (.one .null)
    | segment :: _ => .error (.pastNull segment)
  | .leaf s =>
    match segments with
    | [] => .ok (.one (.scalar s))
    | segment :: _ => .error (.pastScalar segment)
  | .map entries =>
    match segments with
    | [] => .ok (.one .composite)
    | segment :: rest => resolveMember (fun key => key == segment) segment rest entries
  | .record members =>
    match segments with
    | [] => .ok (.one .composite)
    | segment :: rest =>
      resolveMember (fun name => Text.sameIgnoringCase name segment) segment rest members

def resolveItems (segments : List String) : List Entity → List Found
  | [] => []
  | e :: es => itemFindings (resolve segments e) ++ resolveItems segments es

/-- Goes on in the first member whose name fits. -/
def resolveMember (fits : String → Bool) (segment : String) (rest : List String) :
    List (String × Entity) → Except ResolveFault Resolved
  | [] => .error (.missing segment)
  | (name, e) :: more =>
    if fits name then resolve rest e else resolveMember fits segment rest more

end

/-- What a dotted path leads to. -/
def resolvePath (path : String) (e : Entity) : Except ResolveFault Resolved :=
  resolve (pathSegments path) e

/-- All findings of a path; a path that leads nowhere finds null. -/
def findings (segments : List String) (e : Entity) : List Found :=
  itemFindings (resolve segments e)

theorem resolveItems_eq_flatMap (segments : List String) (items : List Entity) :
    resolveItems segments items = items.flatMap (findings segments) := by
  induction items with
  | nil => simp [resolveItems]
  | cons e es ih => simp [resolveItems, findings, ih]

theorem findings_list (segments : List String) (items : List Entity) :
    findings segments (.list items) = items.flatMap (findings segments) := by
  rw [findings, resolve, itemFindings, resolveItems_eq_flatMap]

end Entity

end Sieve
