import Sieve.Predicate

/-!
# Sieve.Predicate.Printer

The written form of predicates. A compound predicate stands in parentheses with its conjunction
between the children; without children it reads like the predicate that matches everything.
-/

namespace Sieve

def Leaf.text (l : Leaf) : String :=
  let head := l.field.text ++ " " ++ l.condition.operator.keyword
  match l.condition with
  | .nullness _ => head
  | c => head ++ " " ++ c.value.display

namespace Predicate

mutual

def text : Predicate → String
  | .matchAll => "*"
  | .leaf l => l.text
  | .compound _ [] => "*"
  | .compound c (p :: ps) => "(" ++ text p ++ textAfter c ps ++ ")"

/-- The children after the first, each with the conjunction in front. -/
def textAfter (c : Conjunction) : List Predicate → String
  | [] => ""
  | p :: ps => " " ++ c.token ++ " " ++ text p ++ textAfter c ps

end

end Predicate

end Sieve
