import Sieve.Value

/-!
# Sieve.Sql.Argument

What is bound to the placeholders of a statement.

* `Argument.ofValue`: an unsigned integer beyond the signed ones is bound as a binary64 number, a
  list as a JSON document.
* `Argument.document`: a document is stored with lower-case keys.
-/

namespace Sieve
namespace Sql

-- Powers are the core ones, also in a context with algebraic structures.
attribute [local instance (high)] instPowNat

inductive Argument where
  | null
  | bool (b : Bool)
  | int (n : Int64)
  | float (x : Binary64)
  | text (s : String)
  | json (j : Json)

namespace Argument

def isNull : Argument → Bool
  | .null => true
  | _ => false

def ofScalar : Scalar → Argument
  | .bool b => .bool b
  | .int n => .int n
  | .uint n =>
    if n.toNat < 2 ^ (63 : Nat) then .int (Int64.ofNat n.toNat) else .float (Binary64.ofInt n.toNat)
  | .float x => .float x
  | .text s => .text s

def ofValue : Value → Argument
  | .null => .null
  | .scalar s => ofScalar s
  | .list items => .json (Value.list items).toJson

def document (j : Json) : Argument := .json j.lowerKeys

/-- How an argument is shown to a reader. -/
def describe : Argument → String
  | .null => "NULL"
  | .bool b => Scalar.truth b
  | .int n => Scalar.integerText n.toInt
  | .float x => Scalar.plainNumber.number x
  | .text s => (Json.text s).compact
  | .json j => j.compact ++ "::jsonb"

theorem isNull_ofScalar (s : Scalar) : (ofScalar s).isNull = false := by
  cases s with
  | uint n => simp only [ofScalar]; split <;> rfl
  | _ => rfl

end Argument

end Sql
end Sieve
