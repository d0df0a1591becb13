import Sieve.Predicate

/-!
# Sieve.Predicate.Error

Why no predicate could be made, and the text that says so. An error inside a compound predicate
names the way to it by the indices of the children, outermost first.
-/

namespace Sieve

/-- What is wrong with a document that should hold a predicate. -/
inductive DocumentFault where
  | unreadable
  | notObject (found : Json)
  | unknownType (tag : Json)
  | missingText (key : String)
  | childrenNotArray
  | objectValue

def DocumentFault.message : DocumentFault → String
  | .unreadable => "the text is not JSON"
  | .notObject found => "expected an object, got " ++ found.compact
  | .unknownType tag => "unknown predicate type " ++ tag.compact
  | .missingText key => "missing string field '" ++ key ++ "'"
  | .childrenNotArray => "'predicates' must be an array"
  | .objectValue => "predicate values must be scalars or lists, not objects"

inductive PredicateError where
  | unknownOperator (name : String)
  | unknownConjunction (name : String)
  | fieldPath (field : String)
  | operand (field : String) (op : Operator) (fault : OperandFault)
  | document (fault : DocumentFault)
  | child (index : Nat) (cause : PredicateError)
  /-- Reading an expression stopped this many bytes into it. -/
  | stopped (offset : Nat)
  | mixedConjunctions

namespace PredicateError

def message : PredicateError → String
  | .unknownOperator name => "unknown operator: " ++ name
  | .unknownConjunction name => "unknown conjunction: " ++ name
  | .fieldPath field => "malformed predicate: invalid field path '" ++ field ++ "'"
  | .operand field op fault =>
    "invalid value for " ++ field ++ " " ++ op.token ++ ": " ++ fault.message
  | .document fault => "malformed predicate: " ++ fault.message
  | .child index cause =>
    "malformed child predicate at index " ++ toString index ++ ": " ++ cause.message
  | .stopped offset => "syntax error: at offset " ++ toString offset ++ ": "
  | .mixedConjunctions =>
    "syntax error: AND and OR cannot be mixed at the same level without parentheses"

end PredicateError

namespace Predicate

/-- The leaf with a path, an operator and an operand; the path is checked first. -/
def make (field : String) (op : Operator) (v : Value) : Except PredicateError Predicate :=
  match FieldPath.ofString? field with
  | none => .error (.fieldPath field)
  | some path =>
    match Condition.make op v with
    | .ok condition => .ok (.leaf ⟨path, condition⟩)
    | .error fault => .error (.operand field op fault)

theorem make_leaf (l : Leaf) :
    make l.field.text l.condition.operator l.condition.value = .ok (.leaf l) := by
  simp [make, FieldPath.ofString?_text, Condition.make_value]

end Predicate

end Sieve
