import Sieve.Sql.Compile

/-!
# Sieve.Proofs.Sql.Correspondence

Two predicates of one shape, their leaves related pair by pair, in two catalogs. What related leaves
have in common carries over to the predicates: how many values they bind (`length_arguments`), and
what is seen of their conditions, if the parts of a condition show all that is seen of the whole
(`test_corresponds`).
-/

namespace Sieve

namespace Predicate

mutual

/-- Predicates of one shape with related leaves in the same places. -/
inductive Corresponds (related : Leaf → Leaf → Prop) : Predicate → Predicate → Prop where
  | matchAll : Corresponds related .matchAll .matchAll
  | leaf {a b : Leaf} : related a b → Corresponds related (.leaf a) (.leaf b)
  | compound {c : Conjunction} {ps qs : List Predicate} : AllCorrespond related ps qs →
      Corresponds related (.compound c ps) (.compound c qs)

inductive AllCorrespond (related : Leaf → Leaf → Prop) :
    List Predicate → List Predicate → Prop where
  | nil : AllCorrespond related [] []
  | cons {p q : Predicate} {ps qs : List Predicate} : Corresponds related p q →
      AllCorrespond related ps qs → AllCorrespond related (p :: ps) (q :: qs)

end

end Predicate

namespace Sql

open Predicate (Corresponds AllCorrespond)

/-- What is seen of a condition hangs on what is seen of its parts. -/
structure Congruence {α : Type} (view : Expr → α) : Prop where
  paren : ∀ {a b}, view a = view b → view (.paren a) = view (.paren b)
  junction : ∀ {a a' b b'} c, view a = view a' → view b = view b' →
    view (.junction c a b) = view (.junction c a' b')

/-- Related leaves bind equally many values, and the same is seen of their conditions. -/
structure Simulates {α : Type} (catalog catalog' : Catalog) (related : Leaf → Leaf → Prop)
    (view : Expr → α) : Prop where
  arguments : ∀ {a b}, related a b →
    (leafArguments catalog a).length = (leafArguments catalog' b).length
  test : ∀ {a b}, related a b → ∀ first,
    view (leafTest catalog a first) = view (leafTest catalog' b first)

variable {α : Type} {catalog catalog' : Catalog} {related : Leaf → Leaf → Prop} {view : Expr → α}

mutual

theorem length_arguments (h : Simulates catalog catalog' related view) : ∀ {p q : Predicate},
    Corresponds related p q →
    (arguments catalog p).length = (arguments catalog' q).length
  | _, _, .matchAll => rfl
  | _, _, .leaf hleaf => by
    rw [arguments, arguments]
    exact h.arguments hleaf
  | _, _, .compound hs => by
    rw [arguments, arguments]
    exact length_argumentsOf h hs

theorem length_argumentsOf (h : Simulates catalog catalog' related view) :
    ∀ {ps qs : List Predicate}, AllCorrespond related ps qs →
    (argumentsOf catalog ps).length = (argumentsOf catalog' qs).length
  | _, _, .nil => rfl
  | _, _, .cons hp hs => by
    rw [argumentsOf, argumentsOf, List.length_append, List.length_append, length_arguments h hp,
      length_argumentsOf h hs]

end

mutual

/-- The numbers of the placeholders agree all along, because the leaves in front bind equally many
values. -/
theorem test_corresponds (hc : Congruence view) (h : Simulates catalog catalog' related view) :
    ∀ {p q : Predicate} (first : Nat), Corresponds related p q →
    view (test catalog first p) = view (test catalog' first q)
  | _, _, first, .matchAll => by
    rw [test, test]
  | _, _, first, .leaf hleaf => by
    rw [test, test]
    exact h.test hleaf first
  | _, _, first, .compound .nil => by
    rw [test, test]
  | _, _, first, .compound (.cons hp .nil) => by
    rw [test, test]
    exact test_corresponds hc h first hp
  | _, _, first, .compound (.cons hp (.cons hq hs)) => by
    rw [test, test, length_arguments h hp]
    · exact testAfter_corresponds hc h _ _ (.cons hq hs)
        (hc.paren (test_corresponds hc h first hp))
    · exact fun hnil => by cases hnil
    · exact fun hnil => by cases hnil

theorem testAfter_corresponds (hc : Congruence view)
    (h : Simulates catalog catalog' related view) : ∀ {ps qs : List Predicate} (c : Conjunction)
    {before before' : Expr} (first : Nat), AllCorrespond related ps qs → view before = view before' →
    view (testAfter catalog c before first ps) = view (testAfter catalog' c before' first qs)
  | _, _, c, before, before', first, .nil, hbefore => by
    rw [testAfter, testAfter]
    exact hbefore
  | _, _, c, before, before', first, .cons hp hs, hbefore => by
    rw [testAfter, testAfter, length_arguments h hp]
    exact testAfter_corresponds hc h c _ hs
      (hc.junction c hbefore (hc.paren (test_corresponds hc h first hp)))

end

end Sql
end Sieve
