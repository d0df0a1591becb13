import Sieve.Dict
import Sieve.Number.Reader
import Sieve.Text.Lower

/-!
# Sieve.Json

JSON documents. Integers keep their exact value within 64 bits, signed or unsigned; every other
number is a finite binary64 number. The members of an object stand in key order, each key once.

* `Json.lowerKeys` lower-cases the keys of every object.
* `Json.depth` counts the containers on the deepest path.
-/

namespace Sieve

-- Powers are the core ones, also in a context with algebraic structures.
attribute [local instance (high)] instPowNat

/-- An integer of 64 bits, signed or unsigned. -/
structure Integer64 where
  val : Int
  least : -2 ^ (63 : Nat) ≤ val
  below : val < 2 ^ (64 : Nat)
  deriving DecidableEq

namespace Integer64

def ofInt? (n : Int) : Option Integer64 :=
  if h : -2 ^ (63 : Nat) ≤ n ∧ n < 2 ^ (64 : Nat) then some ⟨n, h.1, h.2⟩ else none

def ofInt64 (n : Int64) : Integer64 where
  val := n.toInt
  least := n.le_toInt
  below := Int.lt_trans n.toInt_lt (by decide)

def ofUInt64 (n : UInt64) : Integer64 where
  val := n.toNat
  least := Int.le_trans (by decide) (Int.natCast_nonneg _)
  below := by have := n.toNat_lt; omega

/-- The signed integer of the same value, if it is small enough. -/
def toInt64? (n : Integer64) : Option Int64 :=
  if n.val < 2 ^ (63 : Nat) then some (Int64.ofInt n.val) else none

end Integer64

inductive Json where
  | null
  | bool (b : Bool)
  | integer (n : Integer64)
  | decimal (x : Finite)
  | text (s : String)
  | array (items : List Json)
  | object (members : List (String × Json))

namespace Json

instance : Inhabited Json := ⟨.null⟩

/-- An object from members in any order; of equal keys the last member counts. -/
def ofMembers (members : List (String × Json)) : Json := .object (Entries.ofPairs members)

/-- The member of an object. -/
def member? (key : String) : Json → Option Json
  | .object members => Entries.get? key members
  | _ => none

def text? : Json → Option String
  | .text s => some s
  | _ => none

/-- The value of an integer that a signed 64-bit integer holds. -/
def int64? : Json → Option Int64
  | .integer n => n.toInt64?
  | _ => none

mutual

def depth : Json → Nat
  | .array items => depthItems items + 1
  | .object members => depthMembers members + 1
  | _ => 0

def depthItems : List Json → Nat
  | [] => 0
  | j :: js => max (depth j) (depthItems js)

def depthMembers : List (String × Json) → Nat
  | [] => 0
  | (_, j) :: ms => max (depth j) (depthMembers ms)

end

mutual

/-- Lower-cases every key; of keys that meet, the last in the order before counts. -/
def lowerKeys : Json → Json
  | .array items => .array (lowerItems items)
  | .object members => ofMembers (lowerMembers members)
  | j => j

def lowerItems : List Json → List Json
  | [] => []
  | j :: js => lowerKeys j :: lowerItems js

def lowerMembers : List (String × Json) → List (String × Json)
  | [] => []
  | (key, j) :: ms => (Text.lower key, lowerKeys j) :: lowerMembers ms

end

end Json

end Sieve
