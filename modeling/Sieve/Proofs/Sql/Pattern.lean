import Mathlib.Data.List.Infix

/-!
# Sieve.Proofs.Sql.Pattern

Patterns of `LIKE` whose escape character is the backslash. A percent sign fits any text, a low line
any one character, a character behind a backslash itself. A backslash with nothing behind it makes
no pattern.
-/

namespace Sieve
namespace Sql
namespace Pattern

inductive Part where
  | any
  | one
  | exactly (c : Char)
  deriving DecidableEq, Repr

def parts? : List Char → Option (List Part)
  | [] => some []
  | ['\\'] => none
  | '\\' :: c :: cs => (parts? cs).map (.exactly c :: ·)
  | '%' :: cs => (parts? cs).map (.any :: ·)
  | '_' :: cs => (parts? cs).map (.one :: ·)
  | c :: cs => (parts? cs).map (.exactly c :: ·)

/-- Whether parts, one after another, fit a whole text. -/
def fits : List Part → List Char → Bool
  | [], cs => cs.isEmpty
  | .any :: parts, cs => cs.tails.any (fits parts)
  | .one :: _, [] => false
  | .one :: parts, _ :: cs => fits parts cs
  | .exactly _ :: _, [] => false
  | .exactly c :: parts, d :: cs => c == d && fits parts cs

end Pattern
end Sql
end Sieve
