import Sieve.Number.Binary64

/-!
# Sieve.Number.Scaling

Powers of ten applied to a binary64 number in binary64 arithmetic: the power is rounded first, and
then the product or quotient is. So the outcome may lie some units away from the nearest number to
the exact value, which `Binary64.ofDecimal` finds.

* `Binary64.scaled` multiplies or divides by `10 ^ k` for every `k`; no power beyond `10 ^ 308` is a
  finite number, so a division by more is done in steps.
-/

namespace Sieve

-- Powers are the core ones, also in a context with algebraic structures.
attribute [local instance (high)] instPowNat

namespace Format

/-- A quotient on or above the finest grid is not rounded to zero. -/
theorem nearest_pos (f : Format) {num den : Nat} (h : 0 < den)
    (hq : 2 ^ f.finest ≤ num / den) : 0 < f.nearest num den := by
  have hpos : 0 < 2 ^ f.finest := Nat.two_pow_pos _
  have hne : num / den ≠ 0 := by omega
  have hgap : f.gap (num / den) ≤ num / den := by
    refine Nat.le_trans (Nat.pow_le_pow_right (by decide) ?_) (Nat.log2_self_le hne)
    have hlog : f.finest ≤ (num / den).log2 := (Nat.le_log2 hne).mpr hq
    have := f.precision_pos
    unfold gapExponent
    omega
  have hle : den * f.gap (num / den) ≤ num := by
    have hd := Nat.div_mul_le_self num den
    rw [Nat.mul_comm] at hd
    exact Nat.le_trans (Nat.mul_le_mul_left den hgap) hd
  exact Nat.mul_pos (roundHalfEven_pos (Nat.mul_pos h (f.gap_pos _)) hle) (f.gap_pos _)

end Format

namespace Binary64

/-- The units of the number nearest to `10 ^ k`. -/
def tenPower (k : Nat) : Nat := Format.double.nearest (10 ^ k * 2 ^ unitExponent) 1

theorem tenPower_pos (k : Nat) : 0 < tenPower k := by
  refine Format.double.nearest_pos Nat.one_pos ?_
  rw [Nat.div_one]
  exact Nat.mul_pos (Nat.pow_pos (by decide)) (Nat.two_pow_pos _)

/-- The greatest power of ten that is a finite number. -/
def greatestPower : Nat := 308

/-- The number nearest to the product with `10 ^ k`. -/
def timesPower (k : Nat) : Binary64 → Binary64
  | .finite x =>
    rounded x.negative (x.units * tenPower k) (2 ^ unitExponent) (Nat.two_pow_pos _)
  | x => x

/-- The number nearest to the quotient by `10 ^ k`. -/
def overPower (k : Nat) : Binary64 → Binary64
  | .finite x => rounded x.negative (x.units * 2 ^ unitExponent) (tenPower k) (tenPower_pos k)
  | x => x

/-- A number divided by `10 ^ k`, by the greatest power as often as it takes. The greatest number is
less than `10 ^ 309`, so that three such steps leave nothing. -/
def reduced (x : Binary64) (k : Nat) : Binary64 :=
  let step := overPower greatestPower
  if k ≤ greatestPower then x.overPower k
  else if k ≤ 2 * greatestPower then (step x).overPower (k - greatestPower)
  else if k ≤ 3 * greatestPower then (step (step x)).overPower (k - 2 * greatestPower)
  else step (step (step x))

/-- A number times `10 ^ exponent`. A product with a power beyond the greatest is out of range, save
that of zero. -/
def scaled (x : Binary64) (exponent : Int) : Binary64 :=
  if exponent < 0 then x.reduced (-exponent).toNat
  else if exponent ≤ greatestPower then x.timesPower exponent.toNat
  else
    match x with
    | .finite x => if x.units = 0 then .finite x else .infinite x.negative
    | x => x

end Binary64

end Sieve
