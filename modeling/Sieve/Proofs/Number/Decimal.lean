import Mathlib
import Sieve.Number.Shortest
import Sieve.Proofs.Number.Rounding

/-!
# Sieve.Proofs.Number.Decimal

Decimals as exact rational numbers. What a decimal is rounded to hangs on its value alone
(`ofDecimal_eq_ofRat`), and rounding keeps the order of values (`unitsOf_mono`).
-/

namespace Sieve

namespace Decimal

/-- The number that a decimal writes. -/
def value (d : Decimal) : ℚ := d.digits * 10 ^ d.exponent

theorem value_nonneg (d : Decimal) : 0 ≤ d.value := by
  unfold value
  positivity

end Decimal

/-- The count of units nearest to a number that is not negative. -/
def unitsOf (q : ℚ) : Nat := Format.double.nearest (q.num.natAbs * 2 ^ unitExponent) q.den

theorem nearest_eq_unitsOf (num : Nat) {den : Nat} (h : 0 < den) :
    Format.double.nearest (num * 2 ^ unitExponent) den = unitsOf (num / den) := by
  have hden : (den : ℚ) ≠ 0 := by exact_mod_cast h.ne'
  have hcross : num * ((num : ℚ) / den).den = ((num : ℚ) / den).num.natAbs * den := by
    have hq : ((num : ℚ) / den).num * (den : ℤ) = num * ((num : ℚ) / den).den := by
      have := Rat.num_div_den ((num : ℚ) / den)
      rw [div_eq_div_iff (by exact_mod_cast Rat.den_nz _) hden] at this
      exact_mod_cast this
    have hnonneg : 0 ≤ ((num : ℚ) / den).num := Rat.num_nonneg.2 (by positivity)
    zify
    rw [abs_of_nonneg hnonneg]
    exact hq.symm
  unfold unitsOf
  rw [← Format.double.nearest_mul_right _ den (Rat.den_pos ((num : ℚ) / den)),
    ← Format.double.nearest_mul_right (((num : ℚ) / den).num.natAbs * _) _ h,
    Nat.mul_right_comm, hcross, Nat.mul_right_comm, Nat.mul_comm den]

theorem unitsOf_mono {a b : ℚ} (ha : 0 ≤ a) (h : a ≤ b) : unitsOf a ≤ unitsOf b := by
  refine Format.double.nearest_mono a.den_pos b.den_pos ?_
  have hle : a.num * b.den ≤ b.num * a.den := Rat.le_iff a b |>.1 h
  have hcast : a.num.natAbs * b.den ≤ b.num.natAbs * a.den := by
    zify
    rwa [abs_of_nonneg (Rat.num_nonneg.2 ha), abs_of_nonneg (Rat.num_nonneg.2 (ha.trans h))]
  calc a.num.natAbs * 2 ^ unitExponent * b.den
      = a.num.natAbs * b.den * 2 ^ unitExponent := Nat.mul_right_comm ..
    _ ≤ b.num.natAbs * a.den * 2 ^ unitExponent := Nat.mul_le_mul_right _ hcast
    _ = b.num.natAbs * 2 ^ unitExponent * a.den := Nat.mul_right_comm ..

/-- A number on the grid is kept. -/
theorem unitsOf_natCast {n k : Nat} (hn : n ≤ 2 ^ 53) :
    unitsOf (n * 2 ^ k : Nat) = n * 2 ^ k * 2 ^ unitExponent := by
  have hgap : Format.double.gap (n * 2 ^ k * 2 ^ unitExponent) ∣ n * 2 ^ k * 2 ^ unitExponent := by
    rw [Nat.mul_assoc, ← Nat.pow_add]
    exact Format.double.gap_dvd_mul (Nat.zero_le _) hn
  have hkept := Format.double.nearest_mul Nat.one_pos hgap
  have h := nearest_eq_unitsOf (n * 2 ^ k) Nat.one_pos
  rw [Nat.mul_one] at hkept
  rw [Nat.cast_one, div_one] at h
  rw [← h, hkept]

theorem two_pow_le_unitsOf {q : ℚ} {k : Nat} (h : 2 ^ k ≤ q) :
    2 ^ (k + unitExponent) ≤ unitsOf q := by
  have hkept : unitsOf (1 * 2 ^ k : Nat) = 1 * 2 ^ k * 2 ^ unitExponent :=
    unitsOf_natCast (by decide)
  have hle : unitsOf (1 * 2 ^ k : Nat) ≤ unitsOf q :=
    unitsOf_mono (by positivity) (by push_cast; linarith)
  rwa [hkept, Nat.one_mul, ← Nat.pow_add] at hle

namespace Binary64

/-- The number nearest to a sign and a size. -/
def ofRat (negative : Bool) (q : ℚ) : Binary64 :=
  rounded negative (q.num.natAbs * 2 ^ unitExponent) q.den q.den_pos

theorem rounded_congr {a b c d : Nat} (negative : Bool) {hb : 0 < b} {hd : 0 < d}
    (h : Format.double.nearest a b = Format.double.nearest c d) :
    rounded negative a b hb = rounded negative c d hd := by
  unfold rounded
  split
  · rename_i hr
    rw [dif_pos (h ▸ hr)]
    congr 2
  · rename_i hr
    rw [dif_neg (h ▸ hr)]

theorem rounded_eq_ofRat (negative : Bool) (num : Nat) {den : Nat} (h : 0 < den) :
    rounded negative (num * 2 ^ unitExponent) den h = ofRat negative (num / den) :=
  rounded_congr negative (nearest_eq_unitsOf num h)

theorem ofRat_eq_finite_iff {x : Finite} {q : ℚ} :
    ofRat x.negative q = .finite x ↔ unitsOf q = x.units := by
  unfold ofRat rounded
  split
  · constructor
    · intro h
      exact congrArg Finite.units (finite.inj h)
    · intro h
      cases x
      congr 2
  · rename_i hr
    constructor
    · intro h
      cases h
    · intro h
      exact absurd (lt_of_eq_of_lt h x.representable.1) hr

/-- Beyond the greatest power of two nothing is finite. -/
theorem ofRat_of_le {negative : Bool} {q : ℚ} {k : Nat} (hk : 1024 ≤ k) (h : 2 ^ k ≤ q) :
    ofRat negative q = .infinite negative := by
  have hout : 2 ^ Format.double.beyond ≤ unitsOf q := by
    refine Nat.le_trans (Nat.pow_le_pow_right (by decide) ?_) (two_pow_le_unitsOf h)
    simp only [Format.double, unitExponent]
    omega
  unfold ofRat rounded
  exact dif_neg (Nat.not_lt.2 hout)

/-- What is less than half of the least positive number is nothing. -/
theorem ofRat_of_lt (negative : Bool) {num den : Nat} (hd : 0 < den)
    (h : 2 * (num * 2 ^ unitExponent) < den) :
    ofRat negative (num / den) = .finite (.zero negative) := by
  have hz : Format.double.nearest (num * 2 ^ unitExponent) den = 0 := by
    have hquot : num * 2 ^ unitExponent / den = 0 := Nat.div_eq_of_lt (by omega)
    have hgap : Format.double.gap 0 = 1 := by decide
    simp only [Format.nearest, hquot, hgap, Nat.mul_one, roundHalfEven,
      Nat.mod_eq_of_lt (show num * 2 ^ unitExponent < den by omega), h, if_true]
  rw [← rounded_eq_ofRat negative num hd]
  have hzero : rounded negative (0 * 1) 1 Nat.one_pos = .finite (.zero negative) :=
    rounded_mul (.zero negative) Nat.one_pos
  rw [← hzero]
  refine rounded_congr negative (hz.trans ?_)
  decide

/-- The ways in which `ofDecimal` decides far-out exponents without a power of ten agree with
rounding. -/
theorem ofDecimal_eq_ofRat (negative : Bool) (digits : Nat) (exponent : Int) :
    ofDecimal negative digits exponent = ofRat negative (digits * 10 ^ exponent) := by
  unfold ofDecimal ofDecimalBy
  by_cases hz : digits = 0
  · subst hz
    have hsmall : 2 * (0 * 2 ^ unitExponent) < 1 := by simp
    have h := ofRat_of_lt negative Nat.one_pos hsmall
    simpa using h.symm
  rw [if_neg hz]
  have hone : (1 : ℚ) ≤ digits := by exact_mod_cast Nat.one_le_iff_ne_zero.2 hz
  by_cases hbig : 400 < exponent
  · rw [if_pos hbig]
    obtain ⟨k, rfl⟩ : ∃ k : Nat, exponent = k := ⟨exponent.toNat, by omega⟩
    have hk : 400 < k := by omega
    refine (ofRat_of_le (k := 3 * k) (by omega) ?_).symm
    calc (2 : ℚ) ^ (3 * k) = (2 ^ 3) ^ k := pow_mul ..
      _ ≤ 10 ^ k := pow_le_pow_left₀ (by norm_num) (by norm_num) _
      _ ≤ digits * 10 ^ k := le_mul_of_one_le_left (by positivity) hone
      _ = digits * 10 ^ (k : ℤ) := by rw [zpow_natCast]
  rw [if_neg hbig]
  by_cases hpos : 0 ≤ exponent
  · obtain ⟨k, rfl⟩ : ∃ k : Nat, exponent = k := ⟨exponent.toNat, by omega⟩
    rw [if_neg (by omega), if_pos hpos, Int.toNat_natCast, rounded_eq_ofRat]
    push_cast
    rw [div_one, zpow_natCast]
  obtain ⟨k, rfl⟩ : ∃ k : Nat, exponent = -(k : ℤ) := ⟨(-exponent).toNat, by omega⟩
  have hvalue : (digits : ℚ) * 10 ^ (-(k : ℤ)) = digits / (10 ^ k : Nat) := by
    push_cast
    rw [zpow_neg, zpow_natCast, div_eq_mul_inv]
  rw [hvalue]
  by_cases hsmall : (digits.log2 : Int) + -(k : ℤ) < -400
  · rw [if_pos hsmall]
    refine (ofRat_of_lt negative (Nat.pow_pos (by decide)) ?_).symm
    have hlog : digits < 2 ^ (digits.log2 + 1) := Nat.lt_log2_self
    calc 2 * (digits * 2 ^ unitExponent)
        < 2 * (2 ^ (digits.log2 + 1) * 2 ^ unitExponent) := by
          have := Nat.mul_lt_mul_of_pos_right hlog (Nat.two_pow_pos unitExponent)
          omega
      _ = 2 ^ (digits.log2 + 1 + unitExponent + 1) := by rw [← Nat.pow_add, ← Nat.pow_succ']
      _ ≤ 2 ^ (3 * k) := by
          apply Nat.pow_le_pow_right (by decide)
          simp only [unitExponent]
          omega
      _ = (2 ^ 3) ^ k := Nat.pow_mul ..
      _ ≤ 10 ^ k := Nat.pow_le_pow_left (by decide) _
  · rw [if_neg hsmall, if_neg hpos]
    have hk : (- -(k : ℤ)).toNat = k := by omega
    simp only [hk]
    exact rounded_eq_ofRat negative digits _

end Binary64

namespace Decimal

/-- A decimal reads back to the number whose units are nearest to its value. -/
theorem readsBack_iff {x : Finite} {d : Decimal} : d.ReadsBack x ↔ unitsOf d.value = x.units := by
  unfold ReadsBack
  rw [Binary64.ofDecimal_eq_ofRat]
  exact Binary64.ofRat_eq_finite_iff

end Decimal

end Sieve
