import Mathlib
import Sieve.Number.Binary64

/-!
# Sieve.Proofs.Number.Rounding

Rounding to the grid of a format hangs on the quotient alone (`Format.nearest_mul_right`) and keeps
the order of quotients (`Format.nearest_mono`).
-/

namespace Sieve

theorem roundHalfEven_mul_right (num den : Nat) {k : Nat} (h : 0 < k) :
    roundHalfEven (num * k) (den * k) = roundHalfEven num den := by
  unfold roundHalfEven
  simp only [Nat.mul_div_mul_right _ _ h, Nat.mul_mod_mul_right, ← Nat.mul_assoc,
    Nat.mul_lt_mul_right h]

theorem div_le_roundHalfEven (num den : Nat) : num / den ≤ roundHalfEven num den := by
  unfold roundHalfEven
  simp only
  split
  · omega
  · split
    · omega
    · split <;> omega

theorem roundHalfEven_le_succ (num den : Nat) : roundHalfEven num den ≤ num / den + 1 := by
  unfold roundHalfEven
  simp only
  split
  · omega
  · split
    · omega
    · split <;> omega

theorem roundHalfEven_mono {a b : Nat} (den : Nat) (h : a ≤ b) :
    roundHalfEven a den ≤ roundHalfEven b den := by
  have hq : a / den ≤ b / den := Nat.div_le_div_right h
  rcases Nat.lt_or_eq_of_le hq with hlt | heq
  · have ha := roundHalfEven_le_succ a den
    have hb := div_le_roundHalfEven b den
    omega
  · have hr : a % den ≤ b % den := by
      have ha := Nat.div_add_mod a den
      have hb := Nat.div_add_mod b den
      rw [heq] at ha
      omega
    unfold roundHalfEven
    simp only [heq]
    split <;> split <;> (try split) <;> (try split) <;> (try split) <;> omega

theorem le_roundHalfEven {num den bound : Nat} (h : 0 < den) (hb : bound * den ≤ num) :
    bound ≤ roundHalfEven num den := by
  have := roundHalfEven_mono den hb
  rwa [roundHalfEven_mul bound den h] at this

namespace Format

theorem nearest_mul_right (f : Format) (num den : Nat) {k : Nat} (h : 0 < k) :
    f.nearest (num * k) (den * k) = f.nearest num den := by
  simp only [nearest, Nat.mul_div_mul_right _ _ h]
  rw [Nat.mul_right_comm, roundHalfEven_mul_right _ _ h]

theorem gapExponent_mono (f : Format) {a b : Nat} (h : a ≤ b) :
    f.gapExponent a ≤ f.gapExponent b := by
  have hlog : a.log2 ≤ b.log2 := by
    by_cases ha : a = 0
    · simp [ha]
    · have hb : b ≠ 0 := by omega
      exact (Nat.le_log2 hb).2 (Nat.le_trans (Nat.log2_self_le ha) h)
  unfold gapExponent
  omega

theorem nearest_le_gap (f : Format) (num : Nat) {den : Nat} (h : 0 < den) :
    f.nearest num den ≤ 2 ^ f.precision * f.gap (num / den) := by
  refine Nat.mul_le_mul_right _ (roundHalfEven_le (Nat.mul_pos h (f.gap_pos _)) ?_)
  exact f.le_precision_mul_gap num h

/-- Above the finest grid every rounded quotient has all its digits. -/
theorem gap_le_nearest (f : Format) (num : Nat) {den : Nat} (h : 0 < den)
    (hg : f.finest < f.gapExponent (num / den)) :
    2 ^ (f.precision - 1) * f.gap (num / den) ≤ f.nearest num den := by
  refine Nat.mul_le_mul_right _ (le_roundHalfEven (Nat.mul_pos h (f.gap_pos _)) ?_)
  have hexp : f.gapExponent (num / den) = (num / den).log2 + 1 - f.precision := by
    unfold gapExponent at hg ⊢
    omega
  have hne : num / den ≠ 0 := by
    intro h0
    have := f.precision_pos
    rw [h0] at hexp hg
    rw [Nat.log2_zero] at hexp
    omega
  have hpow : 2 ^ (f.precision - 1) * f.gap (num / den) ≤ num / den := by
    rw [gap, ← Nat.pow_add]
    refine Nat.le_trans (Nat.pow_le_pow_right (by decide) ?_) (Nat.log2_self_le hne)
    have := f.precision_pos
    omega
  calc 2 ^ (f.precision - 1) * (den * f.gap (num / den))
      = 2 ^ (f.precision - 1) * f.gap (num / den) * den := by
        rw [Nat.mul_comm den, Nat.mul_assoc]
    _ ≤ num / den * den := Nat.mul_le_mul_right _ hpow
    _ ≤ num := Nat.div_mul_le_self _ _

theorem nearest_mono_num (f : Format) {a b den : Nat} (h : 0 < den) (hab : a ≤ b) :
    f.nearest a den ≤ f.nearest b den := by
  have hgap := f.gapExponent_mono (Nat.div_le_div_right (c := den) hab)
  rcases Nat.lt_or_eq_of_le hgap with hlt | heq
  · -- A coarser grid starts where the finer one ends.
    have hfin : f.finest ≤ f.gapExponent (a / den) := Nat.le_max_left _ _
    have hpow : 2 ^ f.precision * f.gap (a / den) ≤ 2 ^ (f.precision - 1) * f.gap (b / den) := by
      rw [gap, gap, ← Nat.pow_add, ← Nat.pow_add]
      apply Nat.pow_le_pow_right (by decide)
      omega
    calc f.nearest a den ≤ 2 ^ f.precision * f.gap (a / den) := f.nearest_le_gap a h
      _ ≤ 2 ^ (f.precision - 1) * f.gap (b / den) := hpow
      _ ≤ f.nearest b den := f.gap_le_nearest b h (by omega)
  · have hsame : f.gap (a / den) = f.gap (b / den) := by rw [gap, gap, heq]
    simp only [nearest, hsame]
    exact Nat.mul_le_mul_right _ (roundHalfEven_mono _ hab)

theorem nearest_mono (f : Format) {a b c d : Nat} (hb : 0 < b) (hd : 0 < d)
    (h : a * d ≤ c * b) : f.nearest a b ≤ f.nearest c d := by
  rw [← f.nearest_mul_right a b hd, ← f.nearest_mul_right c d hb, Nat.mul_comm d b]
  exact f.nearest_mono_num (Nat.mul_pos hb hd) h

end Format

end Sieve
