import Mathlib
import Sieve.Proofs.Number.Rounding
import Sieve.Proofs.Value.Exact

/-!
# Sieve.Proofs.Value.Integers

How integers of up to 64 bits compare as values. Each takes the place of its nearest binary64
number, which keeps the order but not the distance: integers with one nearest number are equal, all
others compare as they are (`Scalar.compare?_integers`). An integer below 53 bits shares its nearest
number with no other one (`Binary64.ofInt_injective`).
-/

namespace Sieve

/-- A signed integer of 64 bits. -/
def FitsSigned (n : Int) : Prop := -2 ^ 63 ≤ n ∧ n < 2 ^ 63

instance (n : Int) : Decidable (FitsSigned n) := inferInstanceAs (Decidable (_ ∧ _))

theorem FitsDouble.fitsSigned {n : Int} (h : FitsDouble n) : FitsSigned n := by
  unfold FitsDouble at h
  constructor <;> omega

namespace Format

/-- The units of the nearest number to a natural number. -/
def roundedUnits (k : Nat) : Nat := Format.double.nearest (k * 2 ^ unitExponent) 1

theorem roundedUnits_mono {k l : Nat} (h : k ≤ l) : roundedUnits k ≤ roundedUnits l :=
  Format.double.nearest_mono_num Nat.one_pos (Nat.mul_le_mul_right _ h)

theorem roundedUnits_of_small {k : Nat} (h : k ≤ 2 ^ 53) :
    roundedUnits k = k * 2 ^ unitExponent := nearest_small h

theorem roundedUnits_pos {k : Nat} (h : 0 < k) : 0 < roundedUnits k := by
  have hone : 0 < roundedUnits 1 := by
    rw [roundedUnits_of_small (by decide), Nat.one_mul]
    exact Nat.two_pow_pos _
  exact Nat.lt_of_lt_of_le hone (roundedUnits_mono h)

/-- Below 53 bits nothing else is rounded to the same number. -/
theorem roundedUnits_injective {k l : Nat} (hk : k < 2 ^ 53)
    (h : roundedUnits k = roundedUnits l) : k = l := by
  rw [roundedUnits_of_small hk.le] at h
  rcases le_or_gt l (2 ^ 53) with hl | hl
  · rw [roundedUnits_of_small hl] at h
    exact Nat.eq_of_mul_eq_mul_right (Nat.two_pow_pos _) h
  · have hfar : 2 ^ 53 * 2 ^ unitExponent ≤ k * 2 ^ unitExponent := by
      rw [h, ← roundedUnits_of_small le_rfl]
      exact roundedUnits_mono hl.le
    exact absurd (Nat.le_of_mul_le_mul_right hfar (Nat.two_pow_pos _)) (Nat.not_le.2 hk)

end Format

namespace Binary64

open Format

/-- The place of the nearest number to an integer. -/
def roundedPlace (n : Int) : Int :=
  if n < 0 then -(roundedUnits n.natAbs : Int) else roundedUnits n.natAbs

theorem roundedPlace_mono {m n : Int} (h : m ≤ n) : roundedPlace m ≤ roundedPlace n := by
  unfold roundedPlace
  split
  · split
    · have := roundedUnits_mono (show n.natAbs ≤ m.natAbs by omega)
      omega
    · omega
  · rw [if_neg (show ¬ n < 0 by omega)]
    have := roundedUnits_mono (show m.natAbs ≤ n.natAbs by omega)
    omega

theorem roundedPlace_neg (n : Int) : roundedPlace n < 0 ↔ n < 0 := by
  unfold roundedPlace
  split
  · have := roundedUnits_pos (show 0 < n.natAbs by omega)
    omega
  · omega

theorem natAbs_roundedPlace (n : Int) : (roundedPlace n).natAbs = roundedUnits n.natAbs := by
  unfold roundedPlace
  split <;> omega

/-- The nearest number to an integer of at most 64 bits is known by its place. -/
theorem ofInt_eq {n : Int} (h : n.natAbs ≤ 2 ^ 64) :
    ∃ x, ofInt n = .finite x ∧ x.negative = decide (roundedPlace n < 0) ∧
      x.units = (roundedPlace n).natAbs := by
  obtain ⟨x, hx⟩ := ofInt_finite h
  refine ⟨x, hx, ?_⟩
  rw [ofInt, rounded] at hx
  split at hx
  · cases hx
    rw [natAbs_roundedPlace, decide_eq_decide.2 (roundedPlace_neg n)]
    exact ⟨rfl, rfl⟩
  · cases hx

theorem place?_ofInt {n : Int} (h : n.natAbs ≤ 2 ^ 64) :
    (ofInt n).place? = some (roundedPlace n) := by
  obtain ⟨x, hx, hneg, hunits⟩ := ofInt_eq h
  rw [hx, place?, Finite.signed, hneg, hunits, Option.some.injEq]
  split <;> rename_i hsign <;> simp only [decide_eq_true_eq] at hsign <;> omega

section Order

variable {m n : Int} (hm : m.natAbs ≤ 2 ^ 64) (hn : n.natAbs ≤ 2 ^ 64)

include hm hn

theorem ofInt_eq_iff : ofInt m = ofInt n ↔ roundedPlace m = roundedPlace n := by
  constructor
  · intro h
    rw [← Option.some.injEq, ← place?_ofInt hm, ← place?_ofInt hn, h]
  · intro h
    obtain ⟨x, hx, hxneg, hxunits⟩ := ofInt_eq hm
    obtain ⟨y, hy, hyneg, hyunits⟩ := ofInt_eq hn
    have hneg : x.negative = y.negative := by rw [hxneg, hyneg, h]
    have hunits : x.units = y.units := by rw [hxunits, hyunits, h]
    rw [hx, hy]
    cases x
    cases y
    cases hneg
    cases hunits
    rfl

/-- An integer below 53 bits shares its nearest number with no other one. -/
theorem ofInt_injective (hsmall : m.natAbs < 2 ^ 53 ∨ n.natAbs < 2 ^ 53)
    (h : ofInt m = ofInt n) : m = n := by
  rw [ofInt_eq_iff hm hn] at h
  have hsign : m < 0 ↔ n < 0 := by
    rw [← roundedPlace_neg m, ← roundedPlace_neg n, h]
  have hunits : roundedUnits m.natAbs = roundedUnits n.natAbs := by
    rw [← natAbs_roundedPlace, h, natAbs_roundedPlace]
  have habs : m.natAbs = n.natAbs := by
    rcases hsmall with hsmall | hsmall
    · exact roundedUnits_injective hsmall hunits
    · exact (roundedUnits_injective hsmall hunits.symm).symm
  omega

end Order

/-- The order of integers that takes those with one nearest number for equal. -/
def roundedOrder (m n : Int) : Ordering := if ofInt m = ofInt n then .eq else compare m n

theorem roundedOrder_eq_eq {m n : Int} : roundedOrder m n = .eq ↔ ofInt m = ofInt n := by
  unfold roundedOrder
  by_cases h : ofInt m = ofInt n
  · rw [if_pos h]
    exact iff_of_true rfl h
  · rw [if_neg h, compare_eq_iff_eq]
    exact ⟨congrArg ofInt, fun heq => absurd heq h⟩

theorem roundedOrder_of_apart {m n : Int} (h : ofInt m = ofInt n → m = n) :
    roundedOrder m n = compare m n := by
  unfold roundedOrder
  split
  · next heq => exact (compare_eq_iff_eq.2 (h heq)).symm
  · rfl

theorem compare_roundedPlace {m n : Int} (hm : m.natAbs ≤ 2 ^ 64) (hn : n.natAbs ≤ 2 ^ 64) :
    compare (roundedPlace m) (roundedPlace n) = roundedOrder m n := by
  unfold roundedOrder
  split
  · next h => exact compare_eq_iff_eq.2 ((ofInt_eq_iff hm hn).1 h)
  · next h =>
    have hne : roundedPlace m ≠ roundedPlace n := fun heq => h ((ofInt_eq_iff hm hn).2 heq)
    rcases lt_trichotomy m n with hlt | rfl | hgt
    · rw [compare_lt_iff_lt.2 hlt, compare_lt_iff_lt]
      exact lt_of_le_of_ne (roundedPlace_mono hlt.le) hne
    · exact absurd rfl hne
    · rw [compare_gt_iff_gt.2 hgt, compare_gt_iff_gt]
      exact lt_of_le_of_ne (roundedPlace_mono hgt.le) hne.symm

theorem compare?_ofInt {m n : Int} (hm : m.natAbs ≤ 2 ^ 64) (hn : n.natAbs ≤ 2 ^ 64) :
    (ofInt m).compare? (ofInt n) = some (roundedOrder m n) := by
  rw [compare?, place?_ofInt hm, place?_ofInt hn, ← compare_roundedPlace hm hn]

theorem roundedOrder_beq_comm (m n : Int) :
    (roundedOrder m n == .eq) = (roundedOrder n m == .eq) := by
  rw [Bool.eq_iff_iff, beq_iff_eq, beq_iff_eq, roundedOrder_eq_eq, roundedOrder_eq_eq]
  exact eq_comm

theorem equal_ofInt {m n : Int} (hm : m.natAbs ≤ 2 ^ 64) (hn : n.natAbs ≤ 2 ^ 64) :
    (ofInt m).equal (ofInt n) = (roundedOrder m n == .eq) := by
  rw [equal, compare?_ofInt hm hn, Option.some_beq_some]

end Binary64

namespace Scalar

open Binary64

variable {a b : Scalar} {m n : Int}

theorem natAbs_of_integer? (h : a.integer? = some n) : n.natAbs ≤ 2 ^ 64 := by
  cases a with
  | int k =>
    cases h
    have := k.le_toInt
    have := k.toInt_lt
    omega
  | uint k =>
    cases h
    have := k.toNat_lt
    omega
  | _ => cases h

theorem number?_of_integer? (h : a.integer? = some n) : a.number? = some (.ofInt n) := by
  cases a with
  | int k => cases h; rfl
  | uint k => cases h; rfl
  | _ => cases h

/-- Integers compare as their nearest numbers do. -/
theorem compare?_integers (ha : a.integer? = some m) (hb : b.integer? = some n) :
    a.compare? b = some (roundedOrder m n) := by
  simp only [compare?, number?_of_integer? ha, number?_of_integer? hb]
  exact compare?_ofInt (natAbs_of_integer? ha) (natAbs_of_integer? hb)

theorem equal_integers (ha : a.integer? = some m) (hb : b.integer? = some n) :
    a.equal b = (roundedOrder m n == .eq) := by
  simp only [equal, number?_of_integer? ha, number?_of_integer? hb]
  exact equal_ofInt (natAbs_of_integer? ha) (natAbs_of_integer? hb)

end Scalar

end Sieve
