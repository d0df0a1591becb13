import Sieve.Operator
import Sieve.Text.Search
import Sieve.Value

/-!
# Sieve.Predicate

Predicates over the fields of records. A leaf holds a dotted path and a condition on what the path
leads to; an operator that takes no operand has none, one that takes a list has a list, and every
number in an operand is finite, all by type.

* `Condition.make` checks an operand of any shape against an operator; `Condition.make_value` says
  that the operand of a condition is accepted again.
* `Predicate.same` is equality of structure.
-/

namespace Sieve

/-- The names between the points of a path. -/
def pathSegments (path : String) : List String := (Text.split '.' path.toList).map String.ofList

/-- A dotted path of one name or more, none of them empty. -/
structure FieldPath where
  text : String
  named : ∀ s ∈ pathSegments text, s ≠ ""
  deriving DecidableEq

namespace FieldPath

def ofString? (s : String) : Option FieldPath :=
  if h : ∀ x ∈ pathSegments s, x ≠ "" then some ⟨s, h⟩ else none

def segments (p : FieldPath) : List String := pathSegments p.text

/-- The first name of the path. -/
def root (p : FieldPath) : String := p.segments.headD p.text

/-- The names after the first. -/
def nested (p : FieldPath) : List String := p.segments.drop 1

theorem ofString?_text (p : FieldPath) : ofString? p.text = some p := by
  simp only [ofString?, dif_pos p.named]

end FieldPath

/-- Why an operand does not fit its operator. -/
inductive OperandFault where
  | unwanted
  | listWanted
  | nestedItem
  | valueWanted
  | scalarWanted
  | notFinite
  deriving DecidableEq, Repr

def OperandFault.message : OperandFault → String
  | .unwanted => "null checks take no value"
  | .listWanted => "a list value is required"
  | .nestedItem => "list elements must be non-null scalars"
  | .valueWanted => "a value is required"
  | .scalarWanted => "a scalar value is required"
  | .notFinite => "numbers must be finite"

/-- A scalar that conditions compare with. -/
structure Operand where
  scalar : Scalar
  finite : scalar.isFinite = true
  deriving DecidableEq

namespace Operand

def ofScalar? (s : Scalar) : Option Operand :=
  if h : s.isFinite = true then some ⟨s, h⟩ else none

/-- Every scalar as an operand, unless one is a number that is not finite. -/
def ofScalars? : List Scalar → Option (List Operand)
  | [] => some []
  | s :: ss =>
    match ofScalar? s, ofScalars? ss with
    | some o, some os => some (o :: os)
    | _, _ => none

theorem ofScalar?_scalar (o : Operand) : ofScalar? o.scalar = some o := by
  simp only [ofScalar?, dif_pos o.finite]

theorem ofScalars?_scalars (os : List Operand) : ofScalars? (os.map Operand.scalar) = some os := by
  induction os with
  | nil => rfl
  | cons o os ih => simp [ofScalars?, ofScalar?_scalar, ih]

end Operand

/-- The items of a list of scalars. -/
def scalarItems? : List Value → Option (List Scalar)
  | [] => some []
  | .scalar s :: vs => (scalarItems? vs).map (s :: ·)
  | _ :: _ => none

theorem scalarItems?_map (ss : List Scalar) : scalarItems? (ss.map Value.scalar) = some ss := by
  induction ss with
  | nil => rfl
  | cons s ss ih => simp [scalarItems?, ih]

/-- What a leaf asks of the value at its path. -/
inductive Condition where
  | comparison (op : Comparison) (operand : Operand)
  | membership (negated : Bool) (items : List Operand)
  | textual (test : TextTest) (operand : Operand)
  | nullness (negated : Bool)
  deriving DecidableEq

namespace Condition

def operator : Condition → Operator
  | .comparison op _ => .comparison op
  | .membership negated _ => .membership negated
  | .textual test _ => .textual test
  | .nullness negated => .nullness negated

/-- The operand as a value; null where there is none. -/
def value : Condition → Value
  | .comparison _ o => .scalar o.scalar
  | .membership _ items => .list (items.map fun o => .scalar o.scalar)
  | .textual _ o => .scalar o.scalar
  | .nullness _ => .null

/-- A single operand. -/
def operandOf : Value → Except OperandFault Operand
  | .null => .error .valueWanted
  | .list _ => .error .scalarWanted
  | .scalar s =>
    match Operand.ofScalar? s with
    | some o => .ok o
    | none => .error .notFinite

def itemsOf : Value → Except OperandFault (List Operand)
  | .list items =>
    match scalarItems? items with
    | none => .error .nestedItem
    | some scalars =>
      match Operand.ofScalars? scalars with
      | some os => .ok os
      | none => .error .notFinite
  | _ => .error .listWanted

/-- The condition with an operator and an operand, if they fit. -/
def make (op : Operator) (v : Value) : Except OperandFault Condition :=
  match op with
  | .comparison op => (operandOf v).map (.comparison op)
  | .membership negated => (itemsOf v).map (.membership negated)
  | .textual test => (operandOf v).map (.textual test)
  | .nullness negated =>
    match v with
    | .null => .ok (.nullness negated)
    | _ => .error .unwanted

theorem operandOf_scalar (o : Operand) : operandOf (.scalar o.scalar) = .ok o := by
  simp [operandOf, Operand.ofScalar?_scalar]

theorem itemsOf_scalars (os : List Operand) :
    itemsOf (.list (os.map fun o => .scalar o.scalar)) = .ok os := by
  have h : os.map (fun o => Value.scalar o.scalar) = (os.map Operand.scalar).map Value.scalar := by
    simp
  rw [h]
  simp only [itemsOf, scalarItems?_map, Operand.ofScalars?_scalars]

theorem make_value (c : Condition) : make c.operator c.value = .ok c := by
  cases c <;> simp [make, operator, value, operandOf_scalar, itemsOf_scalars, Except.map]

end Condition

/-- A condition on the value at a path. -/
structure Leaf where
  field : FieldPath
  condition : Condition
  deriving DecidableEq

inductive Predicate where
  | matchAll
  | leaf (l : Leaf)
  | compound (conjunction : Conjunction) (children : List Predicate)

namespace Predicate

instance : Inhabited Predicate := ⟨.matchAll⟩

def isMatchAll : Predicate → Bool
  | .matchAll => true
  | _ => false

mutual

def leaves : Predicate → List Leaf
  | .matchAll => []
  | .leaf l => [l]
  | .compound _ children => leavesOf children

def leavesOf : List Predicate → List Leaf
  | [] => []
  | p :: ps => leaves p ++ leavesOf ps

end

mutual

/-- Equality of structure; operands are compared by `Value.same`. -/
def same : Predicate → Predicate → Bool
  | .matchAll, .matchAll => true
  | .leaf a, .leaf b =>
    a.field.text == b.field.text && decide (a.condition.operator = b.condition.operator) &&
      a.condition.value.same b.condition.value
  | .compound c ps, .compound d qs => decide (c = d) && sameChildren ps qs
  | _, _ => false

def sameChildren : List Predicate → List Predicate → Bool
  | [], [] => true
  | p :: ps, q :: qs => same p q && sameChildren ps qs
  | _, _ => false

end

end Predicate

end Sieve
