import Sieve.Number.Rounding

/-!
# Sieve.Number.Binary64

The 64-bit binary numbers, as exact data. A finite number is a sign and a count of units of
`2 ^ -1074`, the least positive number; a count is representable when it has at most 53 significant
bits and lies below `2 ^ 2098`. Every operation works on the counts, so nothing is left to the
machine's arithmetic.

* `Format.nearest` rounds a quotient of units to the grid of a format;
  `Format.representable_nearest` says the result is on that grid.
* `Binary64.compare?` is the numeric order: zeros are equal whatever their sign, and a number that
  is not a number compares with nothing.
-/

namespace Sieve

-- Powers are the core ones, also in a context with algebraic structures.
attribute [local instance (high)] instPowNat

/-- A unit is `2 ^ -unitExponent`. -/
def unitExponent : Nat := 1074

/-- A binary format: significant bits, the exponent of its finest grid, and the exponent of the
first power of two beyond its range; exponents are counted from the unit `2 ^ -1074`. -/
structure Format where
  precision : Nat
  finest : Nat
  beyond : Nat
  precision_pos : 0 < precision := by decide

namespace Format

def double : Format where
  precision := 53
  finest := 0
  beyond := 2098

def single : Format where
  precision := 24
  finest := 925
  beyond := 1202

/-- Exponent of the distance between neighbours of the format around `units`. -/
def gapExponent (f : Format) (units : Nat) : Nat := max f.finest (units.log2 + 1 - f.precision)

def gap (f : Format) (units : Nat) : Nat := 2 ^ f.gapExponent units

/-- `units` is a finite number of the format. -/
def Representable (f : Format) (units : Nat) : Prop :=
  units < 2 ^ f.beyond ∧ f.gap units ∣ units

instance (f : Format) (units : Nat) : Decidable (f.Representable units) :=
  inferInstanceAs (Decidable (_ ∧ _))

theorem gap_pos (f : Format) (units : Nat) : 0 < f.gap units := Nat.two_pow_pos _

/-- The point of the format's grid nearest to `num / den` units, range aside; a half goes to the
even neighbour. -/
def nearest (f : Format) (num den : Nat) : Nat :=
  let gap := f.gap (num / den)
  roundHalfEven num (den * gap) * gap

/-- A count of at most `precision` bits, scaled by a power of two on the grid, is on the grid. -/
theorem gap_dvd_mul (f : Format) {q k : Nat} (hk : f.finest ≤ k) (hq : q ≤ 2 ^ f.precision) :
    f.gap (q * 2 ^ k) ∣ q * 2 ^ k := by
  unfold gap gapExponent
  by_cases hz : q = 0
  · simp [hz]
  · have hne : q * 2 ^ k ≠ 0 := Nat.mul_ne_zero hz (Nat.ne_of_gt (Nat.two_pow_pos k))
    rcases Nat.lt_or_eq_of_le hq with hlt | heq
    · have hlog : (q * 2 ^ k).log2 < f.precision + k := by
        rw [Nat.log2_lt hne, Nat.pow_add]
        exact Nat.mul_lt_mul_of_pos_right hlt (Nat.two_pow_pos k)
      have hle : max f.finest ((q * 2 ^ k).log2 + 1 - f.precision) ≤ k := by omega
      exact Nat.dvd_trans (Nat.pow_dvd_pow 2 hle) (Nat.dvd_mul_left _ _)
    · subst heq
      rw [← Nat.pow_add]
      have hlog : (2 ^ (f.precision + k)).log2 = f.precision + k := Nat.log2_two_pow
      rw [hlog]
      apply Nat.pow_dvd_pow
      have := f.precision_pos
      omega

/-- A quotient lies below the greatest count of gaps that the precision allows. -/
theorem le_precision_mul_gap (f : Format) (num : Nat) {den : Nat} (h : 0 < den) :
    num ≤ 2 ^ f.precision * (den * f.gap (num / den)) := by
  have hlt : num < (num / den + 1) * den := by
    have hd := Nat.div_add_mod num den
    have hm := Nat.mod_lt num h
    have hs : (num / den + 1) * den = den * (num / den) + den := by
      rw [Nat.succ_mul, Nat.mul_comm]
    omega
  have hpow : num / den + 1 ≤ 2 ^ f.precision * f.gap (num / den) := by
    have hl : num / den < 2 ^ ((num / den).log2 + 1) := Nat.lt_log2_self
    refine Nat.le_trans hl ?_
    rw [gap, ← Nat.pow_add]
    apply Nat.pow_le_pow_right (by decide)
    unfold gapExponent
    omega
  calc num ≤ (num / den + 1) * den := Nat.le_of_lt hlt
    _ ≤ (2 ^ f.precision * f.gap (num / den)) * den := Nat.mul_le_mul_right _ hpow
    _ = 2 ^ f.precision * (den * f.gap (num / den)) := by
      rw [Nat.mul_assoc, Nat.mul_comm (f.gap (num / den)) den]

theorem gap_dvd_nearest (f : Format) (num den : Nat) (h : 0 < den) :
    f.gap (f.nearest num den) ∣ f.nearest num den := by
  have hfin : f.finest ≤ f.gapExponent (num / den) := Nat.le_max_left _ _
  exact gap_dvd_mul f hfin
    (roundHalfEven_le (Nat.mul_pos h (f.gap_pos _)) (f.le_precision_mul_gap num h))

theorem representable_nearest (f : Format) {num den : Nat} (h : 0 < den)
    (hr : f.nearest num den < 2 ^ f.beyond) : f.Representable (f.nearest num den) :=
  ⟨hr, f.gap_dvd_nearest num den h⟩

/-- A count already on the grid is kept. -/
theorem nearest_mul (f : Format) {units den : Nat} (h : 0 < den) (hg : f.gap units ∣ units) :
    f.nearest (units * den) den = units := by
  obtain ⟨q, hq⟩ := hg
  have hn : units * den = q * (den * f.gap units) := by
    rw [Nat.mul_left_comm, ← Nat.mul_assoc, Nat.mul_assoc, Nat.mul_comm q, ← hq, Nat.mul_comm]
  simp only [nearest, Nat.mul_div_cancel _ h]
  rw [hn, roundHalfEven_mul _ _ (Nat.mul_pos h (f.gap_pos _)), Nat.mul_comm, ← hq]

/-- The numbers of the single format are numbers of the double format. -/
theorem double_of_single {units : Nat} (h : single.Representable units) :
    double.Representable units := by
  refine ⟨Nat.lt_of_lt_of_le h.1 (Nat.pow_le_pow_right (by decide) (by decide)), ?_⟩
  refine Nat.dvd_trans (Nat.pow_dvd_pow 2 ?_) h.2
  simp only [gapExponent, single, double]
  omega

end Format

/-- A finite number: a sign and a count of units of `2 ^ -1074`. -/
structure Finite where
  negative : Bool
  units : Nat
  representable : Format.double.Representable units
  deriving DecidableEq

namespace Finite

/-- Zero with a sign. -/
def zero (negative : Bool) : Finite := ⟨negative, 0, Nat.two_pow_pos _, Nat.dvd_zero _⟩

def signed (x : Finite) : Int := if x.negative then -(x.units : Int) else x.units

end Finite

inductive Binary64 where
  | finite (x : Finite)
  | infinite (negative : Bool)
  | nan
  deriving DecidableEq

namespace Binary64

def isFinite : Binary64 → Bool
  | .finite _ => true
  | _ => false

/-- The number of the format nearest to `num / den` units, infinite when out of range. -/
def rounded (negative : Bool) (num den : Nat) (h : 0 < den) : Binary64 :=
  if hr : Format.double.nearest num den < 2 ^ Format.double.beyond then
    .finite ⟨negative, _, Format.double.representable_nearest h hr⟩
  else .infinite negative

theorem rounded_mul (x : Finite) {den : Nat} (h : 0 < den) :
    rounded x.negative (x.units * den) den h = .finite x := by
  have hn := Format.double.nearest_mul h x.representable.2
  have hr : Format.double.nearest (x.units * den) den < 2 ^ Format.double.beyond := by
    rw [hn]; exact x.representable.1
  simp only [rounded, hr, dite_true]
  cases x
  simp only [Binary64.finite.injEq, Finite.mk.injEq, true_and]
  exact hn

/-- A way to round `num / den` units to a number. -/
abbrev Rounding := (negative : Bool) → (num den : Nat) → 0 < den → Binary64

/-- The number of single precision nearest to `num / den` units, infinite when out of range. -/
def roundedSingle : Rounding := fun negative num den h =>
  if hr : Format.single.nearest num den < 2 ^ Format.single.beyond then
    .finite ⟨negative, _, Format.double_of_single (Format.single.representable_nearest h hr)⟩
  else .infinite negative

/-- The nearest number to an integer. -/
def ofInt (n : Int) : Binary64 := rounded (n < 0) (n.natAbs * 2 ^ unitExponent) 1 Nat.one_pos

/-- The number that `digits * 10 ^ exponent` is rounded to. An exponent so far out that no rounding
matters is decided without the power of ten. -/
def ofDecimalBy (round : Rounding) (negative : Bool) (digits : Nat) (exponent : Int) : Binary64 :=
  if digits = 0 then .finite (.zero negative)
  else if 400 < exponent then .infinite negative
  else if (digits.log2 : Int) + exponent < -400 then .finite (.zero negative)
  else if 0 ≤ exponent then
    round negative (digits * 10 ^ exponent.toNat * 2 ^ unitExponent) 1 Nat.one_pos
  else round negative (digits * 2 ^ unitExponent) (10 ^ (-exponent).toNat) (Nat.pow_pos (by decide))

/-- The nearest number to `digits * 10 ^ exponent`. -/
def ofDecimal : Bool → Nat → Int → Binary64 := ofDecimalBy rounded

/-- The number of single precision nearest to `digits * 10 ^ exponent`. -/
def singleOfDecimal : Bool → Nat → Int → Binary64 := ofDecimalBy roundedSingle

/-- Place on the number line, counted in units; the infinities stand just beyond all finite
numbers. -/
def place? : Binary64 → Option Int
  | .finite x => some x.signed
  | .infinite negative => some (if negative then -(2 ^ (2098 : Nat)) else 2 ^ (2098 : Nat))
  | .nan => none

def compare? (a b : Binary64) : Option Ordering :=
  match a.place?, b.place? with
  | some x, some y => some (compare x y)
  | _, _ => none

/-- Numeric equality: a number that is not a number equals nothing, itself included. -/
def equal (a b : Binary64) : Bool := a.compare? b == some .eq

end Binary64

end Sieve
