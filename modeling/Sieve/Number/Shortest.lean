import Sieve.Number.Binary64

/-!
# Sieve.Number.Shortest

The fewest decimal digits that read back to a finite number. Every finite number has an exact
decimal expansion, because a unit is `5 ^ 1074 * 10 ^ -1074`; the search cuts that expansion to one
digit, two digits and so on, and takes the first cut with a neighbour that reads back.

* `Decimal.shortest_readsBack`: what the search returns reads back.
-/

namespace Sieve

-- Powers are the core ones, also in a context with algebraic structures.
attribute [local instance (high)] instPowNat

/-- Which of two equally near candidates is taken. -/
inductive Tie where
  | even
  | up
  deriving DecidableEq

/-- The number `digits * 10 ^ exponent`. -/
structure Decimal where
  digits : Nat
  exponent : Int
  deriving DecidableEq

namespace Decimal

def ReadsBack (x : Finite) (d : Decimal) : Prop :=
  Binary64.ofDecimal x.negative d.digits d.exponent = .finite x

instance (x : Finite) (d : Decimal) : Decidable (d.ReadsBack x) :=
  inferInstanceAs (Decidable (_ = _))

/-- The exact expansion, an integer count of `10 ^ -1074`. -/
def exact (x : Finite) : Decimal := ⟨x.units * 5 ^ unitExponent, -(unitExponent : Int)⟩

/-- How many decimal digits a number has. -/
def length (n : Nat) : Nat := (Nat.toDigits 10 n).length

/-- The neighbour of `x` on the grid of `10 ^ dropped` that reads back; of two, the nearer. -/
def onGrid? (tie : Tie) (x : Finite) (dropped : Nat) : Option Decimal :=
  let whole := (exact x).digits
  let step := 10 ^ dropped
  let below : Decimal := ⟨whole / step, (exact x).exponent + dropped⟩
  let above : Decimal := ⟨whole / step + 1, (exact x).exponent + dropped⟩
  if below.ReadsBack x then
    if above.ReadsBack x then
      match compare (2 * whole) ((2 * below.digits + 1) * step) with
      | .lt => some below
      | .gt => some above
      | .eq => some (if tie = .even ∧ below.digits % 2 = 0 then below else above)
    else some below
  else if above.ReadsBack x then some above
  else none

/-- The shortest decimal that reads back to `x`. -/
def shortest (tie : Tie) (x : Finite) : Decimal :=
  let total := length (exact x).digits
  ((List.range 17).findSome? fun n => onGrid? tie x (total - (n + 1))).getD (exact x)

theorem onGrid?_readsBack {tie : Tie} {x : Finite} {dropped : Nat} {d : Decimal}
    (h : onGrid? tie x dropped = some d) : d.ReadsBack x := by
  simp only [onGrid?] at h
  split at h
  · rename_i hb
    split at h
    · rename_i ha
      split at h
      · cases h; exact hb
      · cases h; exact ha
      · cases h
        split
        · exact hb
        · exact ha
    · cases h; exact hb
  · split at h
    · rename_i ha; cases h; exact ha
    · cases h

theorem rounded_expanded (x : Finite) (k : Nat) (h : 0 < 10 ^ k) :
    Binary64.rounded x.negative (x.units * 5 ^ k * 2 ^ k) (10 ^ k) h = .finite x := by
  have hnum : x.units * 5 ^ k * 2 ^ k = x.units * 10 ^ k := by rw [Nat.mul_assoc, ← Nat.mul_pow]
  simp only [hnum]
  exact Binary64.rounded_mul x h

theorem le_log2_expanded {units : Nat} (h : units ≠ 0) (k : Nat) : k ≤ (units * 5 ^ k).log2 := by
  have h5 : 0 < 5 ^ k := Nat.pow_pos (by decide)
  rw [Nat.le_log2 (Nat.mul_ne_zero h (Nat.ne_of_gt h5))]
  calc 2 ^ k ≤ 5 ^ k := Nat.pow_le_pow_left (by decide) _
    _ ≤ units * 5 ^ k := Nat.le_mul_of_pos_left _ (Nat.pos_of_ne_zero h)

theorem ofDecimal_zero (negative : Bool) (exponent : Int) :
    Binary64.ofDecimal negative 0 exponent = .finite (.zero negative) := rfl

theorem ofDecimal_expanded (x : Finite) :
    Binary64.ofDecimal x.negative (x.units * 5 ^ unitExponent) (-(unitExponent : Int)) =
      .finite x := by
  by_cases hz : x.units = 0
  · rw [hz, Nat.zero_mul, ofDecimal_zero]
    cases x
    subst hz
    rfl
  · have hpos : 0 < unitExponent := by decide
    have h5 : 0 < 5 ^ unitExponent := Nat.pow_pos (by decide)
    have hlog := le_log2_expanded hz unitExponent
    rw [Binary64.ofDecimal, Binary64.ofDecimalBy,
      if_neg (Nat.mul_ne_zero hz (Nat.ne_of_gt h5)), if_neg (by omega), if_neg (by omega),
      if_neg (by omega)]
    simp only [Int.neg_neg, Int.toNat_natCast]
    exact rounded_expanded x unitExponent _

theorem exact_readsBack (x : Finite) : (exact x).ReadsBack x := ofDecimal_expanded x

theorem shortest_readsBack (tie : Tie) (x : Finite) : (shortest tie x).ReadsBack x := by
  unfold shortest
  simp only
  cases h : (List.range 17).findSome? fun n =>
      onGrid? tie x (length (exact x).digits - (n + 1)) with
  | none => exact exact_readsBack x
  | some d =>
    obtain ⟨n, _, hn⟩ := List.exists_of_findSome?_eq_some h
    exact onGrid?_readsBack hn

end Decimal

end Sieve
