/-!
# Sieve.Number.Saturating

Arithmetic of 64-bit counts that stops at the greatest one instead of going round.
-/

namespace Sieve
namespace Saturating

-- Powers are the core ones, also in a context with algebraic structures.
attribute [local instance (high)] instPowNat

def greatest : Nat := 2 ^ (64 : Nat) - 1

/-- The count nearest to a number. -/
def ofNat (n : Nat) : UInt64 := UInt64.ofNat (min n greatest)

def add (a b : UInt64) : UInt64 := ofNat (a.toNat + b.toNat)

def mul (a b : UInt64) : UInt64 := ofNat (a.toNat * b.toNat)

/-- The signed integer nearest to a count. -/
def toInt64 (a : UInt64) : Int64 := Int64.ofNat (min a.toNat (2 ^ (63 : Nat) - 1))

/-- A count moved into the range from `low` to `high`. -/
def clamp (low high a : UInt64) : UInt64 := if a < low then low else if high < a then high else a

theorem toNat_ofNat (n : Nat) : (ofNat n).toNat = min n greatest := by
  unfold ofNat
  rw [UInt64.toNat_ofNat']
  apply Nat.mod_eq_of_lt
  have : greatest < 2 ^ (64 : Nat) := by decide
  omega

theorem toNat_add (a b : UInt64) : (add a b).toNat = min (a.toNat + b.toNat) greatest :=
  toNat_ofNat _

theorem toNat_mul (a b : UInt64) : (mul a b).toNat = min (a.toNat * b.toNat) greatest :=
  toNat_ofNat _

theorem toNat_clamp (low high a : UInt64) : (clamp low high a).toNat =
    if a.toNat < low.toNat then low.toNat else min a.toNat high.toNat := by
  simp only [clamp, UInt64.lt_iff_toNat_lt]
  split
  · rfl
  · split <;> omega

end Saturating
end Sieve
