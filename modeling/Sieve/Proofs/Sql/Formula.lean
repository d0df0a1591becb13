import Sieve.Matching
import Sieve.Proofs.Sql.Numbering
import Sieve.Proofs.Sql.Outline
import Sieve.Proofs.Sql.Truth

/-!
# Sieve.Proofs.Sql.Formula

The boolean structure of predicates and of conditions, with any truth at all for the leaves.

* `Predicate.holds_eq_holdsBy`: an entity satisfies a predicate by the leaves that it satisfies.
* `value_formula`: the formula of a predicate is true if and only if the predicate holds by the
  leaves that are true.
-/

namespace Sieve

namespace Predicate

mutual

/-- Whether the predicate holds if its leaves, numbered from `n`, hold as given. -/
def holdsBy (t : Nat → Bool) (n : Nat) : Predicate → Bool
  | .matchAll => true
  | .leaf _ => t n
  | .compound _ [] => true
  | .compound .and (p :: ps) => holdsBy t n p && holdsAllBy t (n + p.leaves.length) ps
  | .compound .or (p :: ps) => holdsBy t n p || holdsAnyBy t (n + p.leaves.length) ps

def holdsAllBy (t : Nat → Bool) (n : Nat) : List Predicate → Bool
  | [] => true
  | p :: ps => holdsBy t n p && holdsAllBy t (n + p.leaves.length) ps

def holdsAnyBy (t : Nat → Bool) (n : Nat) : List Predicate → Bool
  | [] => false
  | p :: ps => holdsBy t n p || holdsAnyBy t (n + p.leaves.length) ps

end

section Entity

variable (e : Entity) (t : Nat → Bool)

/-- The entity satisfies those of the leaves that hold. -/
def Settles (n : Nat) (ls : List Leaf) : Prop := ∀ i l, ls[i]? = some l → t (n + i) = l.holds e

variable {e t}

theorem Settles.left {n : Nat} {ls ms : List Leaf} (h : Settles e t n (ls ++ ms)) :
    Settles e t n ls := by
  intro i l hl
  have hi : i < ls.length := (List.getElem?_eq_some_iff.1 hl).1
  exact h i l (by rw [List.getElem?_append_left hi, hl])

theorem Settles.right {n : Nat} {ls ms : List Leaf} (h : Settles e t n (ls ++ ms)) :
    Settles e t (n + ls.length) ms := by
  intro i l hl
  rw [Nat.add_assoc]
  refine h (ls.length + i) l ?_
  rw [List.getElem?_append_right (Nat.le_add_right ..), Nat.add_sub_cancel_left, hl]

mutual

/-- A predicate is satisfied by the leaves that are. -/
theorem holds_eq_holdsBy : ∀ (p : Predicate) (n : Nat), Settles e t n p.leaves →
    p.holds e = p.holdsBy t n
  | .matchAll, n, h => by rw [holds, holdsBy]
  | .leaf l, n, h => by
    rw [leaves] at h
    rw [holds, holdsBy, ← h 0 l rfl, Nat.add_zero]
  | .compound .and [], n, h => by rw [holds, holdsBy]
  | .compound .or [], n, h => by rw [holds, holdsBy]
  | .compound .and (p :: ps), n, h => by
    rw [leaves, leavesOf] at h
    rw [holds, holdsBy, holds_eq_holdsBy p n h.left, holdsAll_eq_holdsAllBy ps _ h.right]
  | .compound .or (p :: ps), n, h => by
    rw [leaves, leavesOf] at h
    rw [holds, holdsBy, holds_eq_holdsBy p n h.left, holdsAny_eq_holdsAnyBy ps _ h.right]

theorem holdsAll_eq_holdsAllBy : ∀ (ps : List Predicate) (n : Nat), Settles e t n (leavesOf ps) →
    holdsAll e ps = holdsAllBy t n ps
  | [], n, h => by rw [holdsAll, holdsAllBy]
  | p :: ps, n, h => by
    rw [leavesOf] at h
    rw [holdsAll, holdsAllBy, holds_eq_holdsBy p n h.left, holdsAll_eq_holdsAllBy ps _ h.right]

theorem holdsAny_eq_holdsAnyBy : ∀ (ps : List Predicate) (n : Nat), Settles e t n (leavesOf ps) →
    holdsAny e ps = holdsAnyBy t n ps
  | [], n, h => by rw [holdsAny, holdsAnyBy]
  | p :: ps, n, h => by
    rw [leavesOf] at h
    rw [holdsAny, holdsAnyBy, holds_eq_holdsBy p n h.left, holdsAny_eq_holdsAnyBy ps _ h.right]

end

end Entity

end Predicate

namespace Sql

/-- A condition as far as `AND`, `OR` and parentheses go. -/
inductive Formula where
  | always
  | atom (fragment : List Token)
  | junction (c : Conjunction) (a b : Formula)
  deriving DecidableEq, Repr

namespace Formula

/-- The fragments, from left to right. -/
def atoms : Formula → List (List Token)
  | .always => []
  | .atom fragment => [fragment]
  | .junction _ a b => a.atoms ++ b.atoms

/-- The truth of the formula, given that of its fragments, which are numbered from `n`. -/
def value (v : Nat → Truth) (n : Nat) : Formula → Truth
  | .always => some true
  | .atom _ => v n
  | .junction c a b => Truth.join c (a.value v n) (b.value v (n + a.atoms.length))

end Formula

mutual

/-- The structure of the condition of a predicate whose first argument has the given number. -/
def formula (catalog : Catalog) (first : Nat) : Predicate → Formula
  | .matchAll => .always
  | .leaf l => .atom (unspaced (leafTest catalog l first).tokens)
  | .compound _ [] => .always
  | .compound _ [p] => formula catalog first p
  | .compound c (p :: ps) =>
    (formulas catalog (first + (arguments catalog p).length) ps).foldl (.junction c)
      (formula catalog first p)

def formulas (catalog : Catalog) (first : Nat) : List Predicate → List Formula
  | [] => []
  | p :: ps =>
    formula catalog first p :: formulas catalog (first + (arguments catalog p).length) ps

end

/-- The fragments of leaves, the first argument of which has the given number. -/
def fragments (catalog : Catalog) (first : Nat) (ls : List Leaf) : List (List Token) :=
  (numbered catalog first ls).map fun (l, k) => unspaced (leafTest catalog l k).tokens

section Atoms

variable (catalog : Catalog)

theorem fragments_append (first : Nat) (ls ms : List Leaf) :
    fragments catalog first (ls ++ ms) = fragments catalog first ls ++
      fragments catalog (first + (argumentsOfLeaves catalog ls).length) ms := by
  rw [fragments, numbered_append, List.map_append]
  rfl

mutual

/-- The fragments in a formula are those of the leaves. -/
theorem atoms_formula : ∀ (p : Predicate) (first : Nat),
    (formula catalog first p).atoms = fragments catalog first p.leaves
  | .matchAll, first => by
    rw [formula, Predicate.leaves]
    rfl
  | .leaf l, first => by
    rw [formula, Predicate.leaves]
    rfl
  | .compound _ [], first => by
    rw [formula, Predicate.leaves]
    rfl
  | .compound _ [p], first => by
    rw [formula, atoms_formula p, Predicate.leaves, Predicate.leavesOf, Predicate.leavesOf,
      List.append_nil]
  | .compound c (p :: q :: ps), first => by
    rw [formula, atoms_formulas c (q :: ps), atoms_formula p, arguments_eq, ← fragments_append]
    · rfl
    · exact fun h => by cases h

theorem atoms_formulas : ∀ (c : Conjunction) (ps : List Predicate) (before : Formula) (first : Nat),
    ((formulas catalog first ps).foldl (.junction c) before).atoms =
      before.atoms ++ fragments catalog first (Predicate.leavesOf ps)
  | c, [], before, first => by
    rw [formulas, Predicate.leavesOf]
    exact (List.append_nil _).symm
  | c, p :: ps, before, first => by
    rw [formulas, List.foldl_cons, atoms_formulas c ps, Formula.atoms, atoms_formula p,
      arguments_eq, List.append_assoc, ← fragments_append]
    rfl

end

theorem length_fragments (first : Nat) (ls : List Leaf) :
    (fragments catalog first ls).length = ls.length := by
  rw [fragments, List.length_map]
  induction ls generalizing first with
  | nil => rfl
  | cons l ls ih => rw [numbered, List.length_cons, List.length_cons, ih]

theorem length_atoms (p : Predicate) (first : Nat) :
    (formula catalog first p).atoms.length = p.leaves.length := by
  rw [atoms_formula, length_fragments]

end Atoms

section Value

variable (catalog : Catalog) (v : Nat → Truth)

mutual

/-- The formula of a predicate is true if and only if the predicate holds by the leaves that are
true. What is false and what is unknown makes no difference. -/
theorem value_formula : ∀ (p : Predicate) (first n : Nat),
    (formula catalog first p).value v n = some true ↔
      p.holdsBy (fun i => v i = some true) n = true
  | .matchAll, first, n => by
    rw [formula, Predicate.holdsBy, Formula.value]
    simp
  | .leaf l, first, n => by
    rw [formula, Predicate.holdsBy, Formula.value, decide_eq_true_eq]
  | .compound _ [], first, n => by
    rw [formula, Predicate.holdsBy, Formula.value]
    simp
  | .compound .and [p], first, n => by
    rw [formula, Predicate.holdsBy, Predicate.holdsAllBy, Bool.and_true, value_formula p]
  | .compound .or [p], first, n => by
    rw [formula, Predicate.holdsBy, Predicate.holdsAnyBy, Bool.or_false, value_formula p]
  | .compound .and (p :: q :: ps), first, n => by
    rw [formula, Predicate.holdsBy, Bool.and_eq_true, value_formulas_and (q :: ps),
      value_formula p, length_atoms]
    exact fun h => by cases h
  | .compound .or (p :: q :: ps), first, n => by
    rw [formula, Predicate.holdsBy, Bool.or_eq_true, value_formulas_or (q :: ps),
      value_formula p, length_atoms]
    exact fun h => by cases h

theorem value_formulas_and : ∀ (ps : List Predicate) (before : Formula) (first n : Nat),
    ((formulas catalog first ps).foldl (.junction .and) before).value v n = some true ↔
      before.value v n = some true ∧
        Predicate.holdsAllBy (fun i => v i = some true) (n + before.atoms.length) ps = true
  | [], before, first, n => by
    rw [formulas, Predicate.holdsAllBy, List.foldl_nil]
    simp
  | p :: ps, before, first, n => by
    rw [formulas, List.foldl_cons, value_formulas_and ps, Formula.value, Formula.atoms,
      List.length_append, length_atoms, Truth.join, Truth.and_eq_true, value_formula p,
      Predicate.holdsAllBy, Bool.and_eq_true, and_assoc, Nat.add_assoc]

theorem value_formulas_or : ∀ (ps : List Predicate) (before : Formula) (first n : Nat),
    ((formulas catalog first ps).foldl (.junction .or) before).value v n = some true ↔
      before.value v n = some true ∨
        Predicate.holdsAnyBy (fun i => v i = some true) (n + before.atoms.length) ps = true
  | [], before, first, n => by
    rw [formulas, Predicate.holdsAnyBy, List.foldl_nil]
    simp
  | p :: ps, before, first, n => by
    rw [formulas, List.foldl_cons, value_formulas_or ps, Formula.value, Formula.atoms,
      List.length_append, length_atoms, Truth.join, Truth.or_eq_true, value_formula p,
      Predicate.holdsAnyBy, Bool.or_eq_true, or_assoc, Nat.add_assoc]

end

end Value

end Sql
end Sieve
