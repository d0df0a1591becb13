import Sieve.Json.Printer
import Sieve.Json.Reader
import Sieve.Predicate.Error

/-!
# Sieve.Predicate.Wire

Predicates as JSON documents:

leaf "field", "operator" and, unless the operator takes no operand, "value" compound "operator", a
conjunction, and "predicates", an array; "children" is read as well all "type" with the text
"matchAll"

Reading checks an object's type first, then whether it has children, and then its members one by
one; the first fault found is the error. A fault inside a child is wrapped with the child's index,
unless it is an unknown name of an operator or a conjunction.
-/

namespace Sieve

theorem Entries.sizeOf_get?_lt {α : Type} [SizeOf α] {key : String} {entries : Entries α} {v : α}
    (h : Entries.get? key entries = some v) : sizeOf v < sizeOf entries := by
  induction entries with
  | nil => simp [Entries.get?] at h
  | cons e rest ih =>
    obtain ⟨k, w⟩ := e
    rw [Entries.get?] at h
    split at h
    · simp only [Option.some.injEq] at h
      subst h
      simp only [List.cons.sizeOf_spec, Prod.mk.sizeOf_spec]
      omega
    · have := ih h
      simp only [List.cons.sizeOf_spec]
      omega

namespace Predicate

def matchAllTag : String := "matchAll"

/-- The document of a leaf. -/
def leafToJson (l : Leaf) : Json :=
  let head : List (String × Json) :=
    [("field", .text l.field.text), ("operator", .text l.condition.operator.token)]
  match l.condition with
  | .nullness _ => .ofMembers head
  | c => .ofMembers (head ++ [("value", c.value.toJson)])

mutual

def toJson : Predicate → Json
  | .matchAll => .ofMembers [("type", .text matchAllTag)]
  | .leaf l => leafToJson l
  | .compound c children =>
    .ofMembers [("operator", .text c.token), ("predicates", .array (toJsonChildren children))]

def toJsonChildren : List Predicate → List Json
  | [] => []
  | p :: ps => toJson p :: toJsonChildren ps

end

/-- A member that has to be a text. -/
def requiredText (key : String) (members : Entries Json) : Except PredicateError String :=
  match (Entries.get? key members).bind Json.text? with
  | some s => .ok s
  | none => .error (.document (.missingText key))

/-- The predicate of an object with a type. -/
def ofTag (tag : Json) : Except PredicateError Predicate :=
  match tag with
  | .text s =>
    if Text.sameIgnoringCase s matchAllTag then .ok .matchAll
    else .error (.document (.unknownType tag))
  | _ => .error (.document (.unknownType tag))

/-- The predicate of an object without type and children. -/
def ofLeafMembers (members : Entries Json) : Except PredicateError Predicate := do
  let field ← requiredText "field" members
  let name ← requiredText "operator" members
  let some op := Operator.read? name | .error (.unknownOperator name)
  match Entries.get? "value" members with
  | none => make field op .null
  | some j =>
    match Value.ofJson? j with
    | some v => make field op v
    | none => .error (.document .objectValue)

/-- The conjunction of an object with children. -/
def readConjunction (members : Entries Json) : Except PredicateError Conjunction := do
  let name ← requiredText "operator" members
  match Conjunction.read? name with
  | some c => .ok c
  | none => .error (.unknownConjunction name)

/-- The children of an object, if it has any member for them. -/
def children? (members : Entries Json) : Option Json :=
  match Entries.get? "predicates" members with
  | some j => some j
  | none => Entries.get? "children" members

theorem sizeOf_children?_lt {members : Entries Json} {j : Json} (h : children? members = some j) :
    sizeOf j < sizeOf members := by
  unfold children? at h
  split at h
  · rename_i k hk
    simp only [Option.some.injEq] at h
    subst h
    exact Entries.sizeOf_get?_lt hk
  · exact Entries.sizeOf_get?_lt h

/-- An error inside the child at an index, as an error of the parent. -/
def inChild (index : Nat) : PredicateError → PredicateError
  | .unknownOperator name => .unknownOperator name
  | .unknownConjunction name => .unknownConjunction name
  | e => .child index e

mutual

/-- The predicate that a document holds. -/
def ofJson (j : Json) : Except PredicateError Predicate :=
  match j with
  | .object members =>
    match Entries.get? "type" members with
    | some tag => ofTag tag
    | none =>
      match h : children? members with
      | none => ofLeafMembers members
      | some (.array items) =>
        have : sizeOf items < sizeOf members := by
          have := sizeOf_children?_lt h
          simp only [Json.array.sizeOf_spec] at this
          omega
        match readConjunction members with
        | .error e => .error e
        | .ok c => (ofJsonChildren 0 items).map (.compound c)
      | some _ =>
        match readConjunction members with
        | .error e => .error e
        | .ok _ => .error (.document .childrenNotArray)
  | found => .error (.document (.notObject found))
termination_by sizeOf j

/-- The predicates of children, the first of which has the given index. -/
def ofJsonChildren (index : Nat) (items : List Json) : Except PredicateError (List Predicate) :=
  match items with
  | [] => .ok []
  | j :: js =>
    match ofJson j with
    | .error e => .error (inChild index e)
    | .ok p => (ofJsonChildren (index + 1) js).map (p :: ·)
termination_by sizeOf items

end

/-- The predicate that a JSON text holds. -/
def readJson (s : String) : Except PredicateError Predicate :=
  match Json.read? s with
  | some j => ofJson j
  | none => .error (.document .unreadable)

/-- As `readJson`, but the document is judged before the text after it. -/
def readLeadingJson (s : String) : Except PredicateError Predicate :=
  match Json.readFirst? Json.depthLimit s with
  | none => .error (.document .unreadable)
  | some (j, rest) =>
    match ofJson j with
    | .error e => .error e
    | .ok p => if rest.isEmpty then .ok p else .error (.document .unreadable)

end Predicate

end Sieve
