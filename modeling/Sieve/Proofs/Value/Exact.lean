import Mathlib
import Sieve.Proofs.Number.Significant
import Sieve.Value.Order

/-!
# Sieve.Proofs.Value.Exact

Numeric values as exact numbers. An integer is itself, a binary64 number what its shortest digits
write. Values compare as binary64 numbers, but as long as integers keep within 53 bits that is the
order of the exact numbers: `Scalar.compare?_rational`, `Scalar.equal_rational`.
-/

namespace Sieve

/-- An integer that binary64 numbers hold together with everything below it. -/
def FitsDouble (n : Int) : Prop := n.natAbs ≤ 2 ^ 53

instance (n : Int) : Decidable (FitsDouble n) := inferInstanceAs (Decidable (_ ≤ _))

/-- Small natural numbers are on the grid. -/
theorem Format.nearest_small {k : Nat} (h : k ≤ 2 ^ 53) :
    Format.double.nearest (k * 2 ^ unitExponent) 1 = k * 2 ^ unitExponent := by
  have hgap : Format.double.gap (k * 2 ^ unitExponent) ∣ k * 2 ^ unitExponent :=
    Format.double.gap_dvd_mul (Nat.zero_le _) h
  have := Format.double.nearest_mul Nat.one_pos hgap
  rwa [Nat.mul_one] at this

namespace Binary64

/-- Small integers are not rounded. -/
theorem ofInt_small {n : Int} (h : FitsDouble n) :
    ∃ x, ofInt n = .finite x ∧ x.negative = decide (n < 0) ∧
      x.units = n.natAbs * 2 ^ unitExponent := by
  have hkept := Format.nearest_small h
  have hrange : Format.double.nearest (n.natAbs * 2 ^ unitExponent) 1 <
      2 ^ Format.double.beyond := by
    rw [hkept]
    calc n.natAbs * 2 ^ unitExponent ≤ 2 ^ 53 * 2 ^ unitExponent := Nat.mul_le_mul_right _ h
      _ < 2 ^ Format.double.beyond := by
        rw [← Nat.pow_add]
        exact Nat.pow_lt_pow_right (by decide) (by decide)
  refine ⟨⟨decide (n < 0), _, Format.double.representable_nearest Nat.one_pos hrange⟩, ?_, rfl,
    hkept⟩
  rw [ofInt, rounded, dif_pos hrange]

/-- An integer of at most 64 bits is rounded to a finite number. -/
theorem ofInt_finite {n : Int} (h : n.natAbs ≤ 2 ^ 64) : ∃ x, ofInt n = .finite x := by
  -- For any power of two, since the one at hand is too great to be computed.
  have hpower : ∀ k, Format.double.nearest (2 ^ k) 1 = 2 ^ k := fun k => by
    have hgap : Format.double.gap (1 * 2 ^ k) ∣ 1 * 2 ^ k :=
      Format.double.gap_dvd_mul (Nat.zero_le _) Nat.one_le_two_pow
    have := Format.double.nearest_mul Nat.one_pos hgap
    rwa [Nat.mul_one, Nat.one_mul] at this
  have hrange : Format.double.nearest (n.natAbs * 2 ^ unitExponent) 1 <
      2 ^ Format.double.beyond := by
    calc Format.double.nearest (n.natAbs * 2 ^ unitExponent) 1
        ≤ Format.double.nearest (2 ^ 64 * 2 ^ unitExponent) 1 :=
          Format.double.nearest_mono_num Nat.one_pos (Nat.mul_le_mul_right _ h)
      _ = 2 ^ (64 + unitExponent) := by rw [← Nat.pow_add, hpower]
      _ < 2 ^ Format.double.beyond := Nat.pow_lt_pow_right (by decide) (by decide)
  exact ⟨_, by rw [ofInt, rounded, dif_pos hrange]⟩

end Binary64

namespace Finite

theorem written_of_int {tie : Tie} {x : Finite} {n : Int} (h : FitsDouble n)
    (hneg : x.negative = decide (n < 0)) (hunits : x.units = n.natAbs * 2 ^ unitExponent) :
    x.written tie = n := by
  have hvalue : (Decimal.shortest tie x).value = n.natAbs :=
    Decimal.shortest_value_of_whole h hunits
  have habs : (n.natAbs : ℚ) = |(n : ℚ)| := Nat.cast_natAbs n |>.trans (Int.cast_abs)
  unfold written
  rw [hvalue, hneg, habs]
  rcases lt_or_ge n 0 with hn | hn
  · have hq : (n : ℚ) < 0 := by exact_mod_cast hn
    simp [hn, abs_of_neg hq]
  · have hq : (0 : ℚ) ≤ n := by exact_mod_cast hn
    simp [not_lt.2 hn, abs_of_nonneg hq]

end Finite

namespace Scalar

/-- The exact number of a finite numeric value. -/
def rational? : Scalar → Option ℚ
  | .int n => some n.toInt
  | .uint n => some n.toNat
  | .float (.finite x) => some (x.written Json.numberLayout.tie)
  | _ => none

/-- Not an integer of more than 53 bits, which a binary64 number may round. -/
def IsExact (s : Scalar) : Prop := ∀ n, s.integer? = some n → FitsDouble n

theorem number?_rational {s : Scalar} {q : ℚ} (hs : s.IsExact) (h : s.rational? = some q) :
    ∃ x, s.number? = some (.finite x) ∧ x.written Json.numberLayout.tie = q := by
  have hint : ∀ n : Int, s.integer? = some n → s.number? = some (.ofInt n) → (n : ℚ) = q →
      ∃ x, s.number? = some (.finite x) ∧ x.written Json.numberLayout.tie = q := by
    intro n hn hnum hq
    obtain ⟨x, hx, hneg, hunits⟩ := Binary64.ofInt_small (hs n hn)
    exact ⟨x, by rw [hnum, hx], by rw [Finite.written_of_int (hs n hn) hneg hunits, hq]⟩
  cases s with
  | bool b => cases h
  | int n => exact hint n.toInt rfl rfl (Option.some.inj h)
  | uint n => exact hint n.toNat rfl rfl (by simpa [rational?] using h)
  | float x =>
    cases x with
    | finite x => exact ⟨x, rfl, Option.some.inj h⟩
    | infinite negative => cases h
    | nan => cases h
  | text s => cases h

section Compare

variable {a b : Scalar} {p q : ℚ}

theorem compare?_rational (ha : a.IsExact) (hb : b.IsExact) (hp : a.rational? = some p)
    (hq : b.rational? = some q) : a.compare? b = some (compare p q) := by
  obtain ⟨x, hx, rfl⟩ := number?_rational ha hp
  obtain ⟨y, hy, rfl⟩ := number?_rational hb hq
  simp only [compare?, hx, hy, Binary64.compare?, Binary64.place?]
  rw [Finite.compare_written]

theorem equal_rational (ha : a.IsExact) (hb : b.IsExact) (hp : a.rational? = some p)
    (hq : b.rational? = some q) : a.equal b = (compare p q == .eq) := by
  have hcmp := compare?_rational ha hb hp hq
  obtain ⟨x, hx, -⟩ := number?_rational ha hp
  obtain ⟨y, hy, -⟩ := number?_rational hb hq
  simp only [compare?, hx, hy] at hcmp
  simp only [equal, hx, hy, Binary64.equal, hcmp]
  rfl

end Compare

/-- A number and another scalar are not ordered. -/
theorem compare?_apart {a b : Scalar} {x : Binary64} (ha : a.number? = some x)
    (hb : b.number? = none) : a.compare? b = none ∧ b.compare? a = none := by
  simp only [compare?, ha, hb, and_self]

/-- A number and another scalar are not equal. -/
theorem equal_apart {a b : Scalar} {x : Binary64} (ha : a.number? = some x)
    (hb : b.number? = none) : b.equal a = false ∧ a.equal b = false := by
  simp only [equal, ha, hb]
  cases a with
  | bool a => simp [number?] at ha
  | text a => simp [number?] at ha
  | _ => cases b <;> exact ⟨rfl, rfl⟩

theorem isNumeric_of_rational? {s : Scalar} {q : ℚ} (h : s.rational? = some q) :
    s.isNumeric = true := by
  cases s <;> first | rfl | cases h

/-- A finite value has an exact number or is not numeric. -/
theorem rational?_cases {s : Scalar} (h : s.isFinite = true) :
    (∃ q, s.rational? = some q) ∨ s.isNumeric = false ∧ s.number? = none := by
  cases s with
  | float x =>
    cases x with
    | finite x => exact .inl ⟨_, rfl⟩
    | infinite negative => cases h
    | nan => cases h
  | int n => exact .inl ⟨_, rfl⟩
  | uint n => exact .inl ⟨_, rfl⟩
  | bool b => exact .inr ⟨rfl, rfl⟩
  | text s => exact .inr ⟨rfl, rfl⟩

end Scalar

end Sieve
