import Sieve.Entity.Resolve
import Sieve.Value.Order

/-!
# Sieve.Matching

Whether an entity satisfies a predicate. A leaf holds when one of the findings of its path satisfies
its condition; a compound predicate without children holds always.

* `Condition.holds`: null satisfies the test for null alone, a map or record the test for no null
  alone.
-/

namespace Sieve

namespace TextTest

def holds (test : TextTest) (actual expected : Scalar) : Bool :=
  match test with
  | .like => actual.contains expected
  | .notLike => !actual.contains expected
  | .contains => actual.contains expected
  | .startsWith => actual.startsWith expected
  | .endsWith => actual.endsWith expected

end TextTest

namespace Condition

/-- Whether a scalar satisfies the condition. -/
def holdsAt (c : Condition) (actual : Scalar) : Bool :=
  match c with
  | .comparison op o => op.holds (actual.equal o.scalar) (actual.compare? o.scalar)
  | .membership negated items => (items.any fun o => o.scalar.equal actual) != negated
  | .textual test o => test.holds actual o.scalar
  | .nullness negated => negated

/-- Whether what a path leads to satisfies the condition. -/
def holds (c : Condition) : Found → Bool
  | .null => c.operator == .nullness false
  | .scalar s => c.holdsAt s
  | .composite => c.operator == .nullness true

end Condition

namespace Leaf

def holds (l : Leaf) (e : Entity) : Bool :=
  (e.findings l.field.segments).any l.condition.holds

end Leaf

namespace Predicate

mutual

def holds (e : Entity) : Predicate → Bool
  | .matchAll => true
  | .leaf l => l.holds e
  | .compound _ [] => true
  | .compound .and (p :: ps) => holds e p && holdsAll e ps
  | .compound .or (p :: ps) => holds e p || holdsAny e ps

def holdsAll (e : Entity) : List Predicate → Bool
  | [] => true
  | p :: ps => holds e p && holdsAll e ps

def holdsAny (e : Entity) : List Predicate → Bool
  | [] => false
  | p :: ps => holds e p || holdsAny e ps

end

theorem holdsAll_eq_all (e : Entity) (ps : List Predicate) : holdsAll e ps = ps.all (holds e) := by
  induction ps with
  | nil => simp [holdsAll]
  | cons p ps ih => simp [holdsAll, ih]

theorem holdsAny_eq_any (e : Entity) (ps : List Predicate) : holdsAny e ps = ps.any (holds e) := by
  induction ps with
  | nil => simp [holdsAny]
  | cons p ps ih => simp [holdsAny, ih]

/-- The items whose entities satisfy the predicate, in their order. -/
def keep (p : Predicate) (entityOf : α → Entity) (items : List α) : List α :=
  items.filter fun a => p.holds (entityOf a)

end Predicate

end Sieve
