import Mathlib
import Sieve.Matching

/-!
# Sieve.Proofs.Matching.Judgement

How any value is judged by an operator and an operand of any shape. A null check looks at whether
the value is null, every other operator denies null and compares all else; the comparison has no
answer for a null check. On the operand of a condition the judgement is that of the condition:
`judge?_scalar` and `judge?_null`.
-/

namespace Sieve

namespace Value

/-- A value against the operand of an operator that is no null check. -/
def compareUnder? (op : Operator) (actual expected : Value) : Option Bool :=
  match op with
  | .comparison op => some (op.holds (actual.equal expected) (actual.compare? expected))
  | .membership negated => some (expected.member actual != negated)
  | .textual .like => some (actual.contains expected)
  | .textual .notLike => some (!actual.contains expected)
  | .textual .contains => some (actual.contains expected)
  | .textual .startsWith => some (actual.startsWith expected)
  | .textual .endsWith => some (actual.endsWith expected)
  | .nullness _ => none

/-- Whether a value satisfies an operator with an operand. -/
def judge? (op : Operator) (actual expected : Value) : Option Bool :=
  match op with
  | .nullness negated => some (actual.isNull != negated)
  | op => if actual.isNull then some false else compareUnder? op actual expected

theorem judge?_null (op : Operator) (expected : Value) :
    judge? op .null expected = some (op == .nullness false) := by
  cases op with
  | nullness negated => cases negated <;> rfl
  | _ => rfl

end Value

namespace Condition

theorem member_value (items : List Operand) (s : Scalar) :
    (Value.list (items.map fun o => .scalar o.scalar)).member (.scalar s) =
      items.any fun o => o.scalar.equal s := by
  rw [Value.member, List.any_map]
  rfl

/-- A scalar is judged by the operator and the operand of a condition as by the condition. -/
theorem judge?_scalar (c : Condition) (s : Scalar) :
    Value.judge? c.operator (.scalar s) c.value = some (c.holdsAt s) := by
  cases c with
  | comparison op o => rfl
  | membership negated items =>
    rw [holdsAt, ← member_value]
    rfl
  | textual test o => cases test <;> rfl
  | nullness negated => cases negated <;> rfl

end Condition

end Sieve
