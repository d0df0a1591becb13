import Sieve.Predicate

/-!
# Sieve.Proofs.Predicate.Collapse

Compound predicates of no child and of one child are not told apart from what they amount to in
written predicates: the first is everything, the second is the child. `Predicate.collapse` makes
them that.

* `leaves_collapseBy`: the leaves stay, and stay in order.
* `fields_of_same`: predicates of one structure have the same fields.
-/

namespace Sieve
namespace Predicate

mutual

/-- Collapses compounds of no child and of one, and changes every leaf. -/
def collapseBy (change : Leaf → Leaf) : Predicate → Predicate
  | .matchAll => .matchAll
  | .leaf l => .leaf (change l)
  | .compound _ [] => .matchAll
  | .compound _ [p] => collapseBy change p
  | .compound c (p :: q :: ps) =>
    .compound c (collapseBy change p :: collapseBy change q :: collapseAllBy change ps)

def collapseAllBy (change : Leaf → Leaf) : List Predicate → List Predicate
  | [] => []
  | p :: ps => collapseBy change p :: collapseAllBy change ps

end

def collapse : Predicate → Predicate := collapseBy id

mutual

theorem leaves_collapseBy (change : Leaf → Leaf) :
    ∀ p, (collapseBy change p).leaves = p.leaves.map change
  | .matchAll => by simp [collapseBy, leaves]
  | .leaf l => by simp [collapseBy, leaves]
  | .compound _ [] => by simp [collapseBy, leaves, leavesOf]
  | .compound _ [p] => by
    rw [collapseBy, leaves_collapseBy change p]
    simp [leaves, leavesOf]
  | .compound c (p :: q :: ps) => by
    rw [collapseBy]
    simp only [leaves, leavesOf, List.map_append]
    rw [leaves_collapseBy change p, leaves_collapseBy change q, leavesOf_collapseAllBy change ps]

theorem leavesOf_collapseAllBy (change : Leaf → Leaf) :
    ∀ ps, leavesOf (collapseAllBy change ps) = (leavesOf ps).map change
  | [] => rfl
  | p :: ps => by
    rw [collapseAllBy, leavesOf, leavesOf, List.map_append, leaves_collapseBy change p,
      leavesOf_collapseAllBy change ps]

end

mutual

/-- Changing leaves to such as are the same in structure changes the whole to one that is. -/
theorem same_collapseBy {f g : Leaf → Leaf}
    (h : ∀ l, same (.leaf (f l)) (.leaf (g l)) = true) :
    ∀ p, same (collapseBy f p) (collapseBy g p) = true
  | .matchAll => by simp [collapseBy, same]
  | .leaf l => by
    rw [collapseBy, collapseBy]
    exact h l
  | .compound _ [] => by simp [collapseBy, same]
  | .compound _ [p] => by
    rw [collapseBy, collapseBy]
    exact same_collapseBy h p
  | .compound c (p :: q :: ps) => by
    rw [collapseBy, collapseBy]
    simp only [same, sameChildren, decide_true, Bool.true_and, Bool.and_eq_true]
    exact ⟨same_collapseBy h p, same_collapseBy h q, sameChildren_collapseAllBy h ps⟩

theorem sameChildren_collapseAllBy {f g : Leaf → Leaf}
    (h : ∀ l, same (.leaf (f l)) (.leaf (g l)) = true) :
    ∀ ps, sameChildren (collapseAllBy f ps) (collapseAllBy g ps) = true
  | [] => rfl
  | p :: ps => by
    rw [collapseAllBy, collapseAllBy]
    simp only [sameChildren, Bool.and_eq_true]
    exact ⟨same_collapseBy h p, sameChildren_collapseAllBy h ps⟩

end

/-- The fields of the leaves, from left to right. -/
def fields (p : Predicate) : List String := p.leaves.map (·.field.text)

mutual

theorem fields_of_same : ∀ p q, same p q = true → fields p = fields q
  | .matchAll, .matchAll, _ => rfl
  | .leaf a, .leaf b, h => by
    simp only [same, Bool.and_eq_true, beq_iff_eq] at h
    simp [fields, leaves, h.1.1]
  | .compound _ ps, .compound _ qs, h => by
    simp only [same, Bool.and_eq_true] at h
    exact fieldsOf_of_same ps qs h.2
  | .matchAll, .leaf _, h => by simp [same] at h
  | .matchAll, .compound _ _, h => by simp [same] at h
  | .leaf _, .matchAll, h => by simp [same] at h
  | .leaf _, .compound _ _, h => by simp [same] at h
  | .compound _ _, .matchAll, h => by simp [same] at h
  | .compound _ _, .leaf _, h => by simp [same] at h

theorem fieldsOf_of_same : ∀ ps qs, sameChildren ps qs = true →
    (leavesOf ps).map (·.field.text) = (leavesOf qs).map (·.field.text)
  | [], [], _ => rfl
  | p :: ps, q :: qs, h => by
    simp only [sameChildren, Bool.and_eq_true] at h
    have hhead : p.leaves.map (·.field.text) = q.leaves.map (·.field.text) :=
      fields_of_same p q h.1
    have htail := fieldsOf_of_same ps qs h.2
    rw [leavesOf, leavesOf, List.map_append, List.map_append, hhead, htail]
  | [], _ :: _, h => by simp [sameChildren] at h
  | _ :: _, [], h => by simp [sameChildren] at h

end

theorem fields_collapse (p : Predicate) : fields p.collapse = fields p := by
  rw [fields, collapse, leaves_collapseBy, List.map_id, fields]

end Predicate
end Sieve
