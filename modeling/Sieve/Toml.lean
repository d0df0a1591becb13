import Sieve.Dict
import Sieve.Number.Binary64

/-!
# Sieve.Toml

TOML documents. The keys of a table stand in key order, each once; a date or time is held by its
text in the standard form.
-/

namespace Sieve

inductive Toml where
  | text (s : String)
  | integer (n : Int64)
  | float (x : Binary64)
  | bool (b : Bool)
  | moment (s : String)
  | array (items : List Toml)
  | table (entries : List (String × Toml))

namespace Toml

instance : Inhabited Toml := ⟨.table []⟩

def text? : Toml → Option String
  | .text s => some s
  | _ => none

def bool? : Toml → Option Bool
  | .bool b => some b
  | _ => none

/-- The value of an integer that is not negative. -/
def count? : Toml → Option Nat
  | .integer n => if 0 ≤ n.toInt then some n.toInt.toNat else none
  | _ => none

end Toml

end Sieve
