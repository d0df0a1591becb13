import Mathlib
import Sieve.Proofs.Number.Decimal

/-!
# Sieve.Proofs.Number.Shortest

What the shortest digits of a finite number write, as an exact number. They keep the order of the
numbers (`Finite.compare_written`), and a whole number of at most 53 bits is written by its own
digits (`Decimal.shortest_value_of_whole`).
-/

namespace Sieve

namespace Decimal

/-- The two neighbours of a number on the grid of `10 ^ dropped`. -/
theorem onGrid?_cases {tie : Tie} {x : Finite} {dropped : Nat} {d : Decimal}
    (h : onGrid? tie x dropped = some d) :
    let whole := (exact x).digits
    let below : Decimal := ⟨whole / 10 ^ dropped, (exact x).exponent + dropped⟩
    let above : Decimal := ⟨whole / 10 ^ dropped + 1, (exact x).exponent + dropped⟩
    d = below ∨ d = above ∧
      (below.ReadsBack x → (2 * below.digits + 1) * 10 ^ dropped ≤ 2 * whole) := by
  intro whole below above
  simp only [onGrid?] at h
  split at h
  · rename_i hb
    split at h
    · split at h
      · exact .inl (Option.some.inj h).symm
      · rename_i hcmp
        exact .inr ⟨(Option.some.inj h).symm, fun _ => (Nat.compare_eq_gt.1 hcmp).le⟩
      · rename_i hcmp
        have heq := Nat.compare_eq_eq.1 hcmp
        split at h
        · exact .inl (Option.some.inj h).symm
        · exact .inr ⟨(Option.some.inj h).symm, fun _ => heq.ge⟩
    · exact .inl (Option.some.inj h).symm
  · rename_i hb
    split at h
    · exact .inr ⟨(Option.some.inj h).symm, fun hb' => absurd hb' hb⟩
    · cases h

theorem length_mul_pow {m : Nat} (h : 0 < m) (k : Nat) : length (m * 10 ^ k) = length m + k := by
  have hle : ∀ n j, 0 < j → (length n ≤ j ↔ n < 10 ^ j) := fun n j hj =>
    Nat.length_toDigits_le_iff (by decide) hj
  have hpos : ∀ n, 0 < length n := fun n => Nat.length_toDigits_pos
  apply Nat.le_antisymm
  · rw [hle _ _ (by have := hpos m; omega), Nat.pow_add]
    exact Nat.mul_lt_mul_of_pos_right ((hle m _ (hpos m)).1 le_rfl) (Nat.pow_pos (by decide))
  · by_contra hlt
    have hlen : length (m * 10 ^ k) ≤ length m + k - 1 := by omega
    rw [hle _ _ (by have := hpos (m * 10 ^ k); have := hpos m; omega)] at hlen
    rcases Nat.lt_or_eq_of_le (hpos m) with hlong | hshort
    · have hexp : length m + k - 1 = length m - 1 + k := by omega
      rw [hexp, Nat.pow_add] at hlen
      have := (hle m (length m - 1) (by omega)).2 (Nat.lt_of_mul_lt_mul_right hlen)
      omega
    · have hexp : length m + k - 1 = k := by omega
      rw [hexp] at hlen
      have := Nat.le_mul_of_pos_left (10 ^ k) h
      omega

theorem exact_digits_of_whole {x : Finite} {m : Nat} (hx : x.units = m * 2 ^ unitExponent) :
    (exact x).digits = m * 10 ^ unitExponent := by
  simp only [exact, hx]
  rw [Nat.mul_assoc, ← Nat.mul_pow]

/-- On a grid of whole numbers only the number itself reads back, or the one after `2 ^ 53`. -/
theorem whole_of_readsBack {x : Finite} {m n : Nat} (hm : m ≤ 2 ^ 53)
    (hx : x.units = m * 2 ^ unitExponent) (hn : unitsOf n = x.units) :
    n = m ∨ n = 2 ^ 53 + 1 := by
  have hkept : ∀ q k : Nat, q ≤ 2 ^ 53 → unitsOf (q * 2 ^ k : Nat) = q * 2 ^ k * 2 ^ unitExponent :=
    fun q k hq => unitsOf_natCast hq
  have hpos : 0 < 2 ^ unitExponent := Nat.two_pow_pos _
  by_cases hsmall : n ≤ 2 ^ 53
  · have h := hkept n 0 hsmall
    rw [Nat.pow_zero, Nat.mul_one, hn, hx] at h
    exact .inl (Nat.eq_of_mul_eq_mul_right hpos h).symm
  · by_contra hne
    have hfar : 2 ^ 53 + 2 ≤ n := by omega
    have hmono : unitsOf ((2 ^ 52 + 1) * 2 ^ 1 : Nat) ≤ unitsOf n :=
      unitsOf_mono (by positivity) (by exact_mod_cast hfar)
    rw [hkept _ _ (by decide), hn, hx] at hmono
    have := Nat.le_of_mul_le_mul_right hmono hpos
    omega

theorem value_of_exponent (digits k : Nat) :
    (⟨digits, -(unitExponent : Int) + (unitExponent + k : Nat)⟩ : Decimal).value =
      (digits * 10 ^ k : Nat) := by
  have hexp : -(unitExponent : Int) + (unitExponent + k : Nat) = (k : Int) := by push_cast; ring
  simp only [value, hexp, zpow_natCast]
  push_cast
  rfl

theorem onGrid?_of_whole {tie : Tie} {x : Finite} {m k : Nat} {d : Decimal} (hm : m ≤ 2 ^ 53)
    (hx : x.units = m * 2 ^ unitExponent) (h : onGrid? tie x (unitExponent + k) = some d) :
    d.value = m := by
  have hread := readsBack_iff.1 (onGrid?_readsBack h)
  have hquot : (exact x).digits / 10 ^ (unitExponent + k) = m / 10 ^ k := by
    rw [exact_digits_of_whole hx, Nat.add_comm, Nat.pow_add]
    exact Nat.mul_div_mul_right _ _ (Nat.pow_pos (by decide))
  have hexp : (exact x).exponent = -(unitExponent : Int) := rfl
  have hcases := onGrid?_cases h
  simp only [hquot, hexp] at hcases
  rcases hcases with hd | ⟨hd, hnear⟩
  · rw [hd, value_of_exponent] at hread ⊢
    rcases whole_of_readsBack hm hx hread with heq | hodd
    · rw [heq]
    · have := Nat.div_mul_le_self m (10 ^ k)
      omega
  · rw [hd, value_of_exponent] at hread ⊢
    rcases whole_of_readsBack hm hx hread with heq | hodd
    · rw [heq]
    · -- The number after `2 ^ 53` is odd, so the grid has no gaps and the number itself is nearer.
      cases k with
      | succ k =>
        rw [Nat.pow_succ, ← Nat.mul_assoc] at hodd
        omega
      | zero =>
        have hself : (⟨m / 10 ^ 0, -(unitExponent : Int) + (unitExponent + 0 : Nat)⟩ :
            Decimal).ReadsBack x := by
          rw [readsBack_iff, value_of_exponent, hx, Nat.pow_zero, Nat.div_one, Nat.mul_one]
          have := unitsOf_natCast (n := m) (k := 0) hm
          rwa [Nat.pow_zero, Nat.mul_one] at this
        have hle := hnear hself
        rw [exact_digits_of_whole hx, Nat.pow_zero, Nat.div_one, Nat.add_zero,
          ← Nat.mul_assoc] at hle
        generalize hp : 10 ^ unitExponent = p at hle
        have hpos : 0 < p := by
          rw [← hp]
          positivity
        have := Nat.le_of_mul_le_mul_right hle hpos
        omega

/-- The search stops at a grid on which one of the neighbours reads back. -/
theorem onGrid?_ne_none {tie : Tie} {x : Finite} {dropped n : Nat}
    (hn : n = (exact x).digits / 10 ^ dropped ∨ n = (exact x).digits / 10 ^ dropped + 1)
    (h : (⟨n, (exact x).exponent + dropped⟩ : Decimal).ReadsBack x) :
    onGrid? tie x dropped ≠ none := by
  rcases hn with rfl | rfl
  · simp only [onGrid?, if_pos h]
    split
    · split <;> simp
    · simp
  · simp only [onGrid?, if_pos h]
    split
    · split <;> simp
    · simp

/-- A search among the first numbers ends at a hit or before it. -/
theorem findSome?_range {α : Type} {f : Nat → Option α} {n i : Nat} (hi : i < n) (h : f i ≠ none) :
    ∃ j d, j ≤ i ∧ f j = some d ∧ (List.range n).findSome? f = some d := by
  induction n with
  | zero => omega
  | succ n ih =>
    rw [List.range_succ, List.findSome?_append]
    cases hd : (List.range n).findSome? f with
    | some d =>
      obtain ⟨j, hj, hfj⟩ := List.exists_of_findSome?_eq_some hd
      by_cases hle : j ≤ i
      · exact ⟨j, d, hle, hfj, rfl⟩
      · obtain ⟨j, e, hj, hfj, he⟩ := ih (by have := List.mem_range.1 hj; omega)
        rw [hd] at he
        exact ⟨j, e, hj, hfj, he⟩
    | none =>
      have hlast : i = n := by
        by_contra hne
        obtain ⟨j, e, -, -, he⟩ := ih (by omega)
        rw [hd] at he
        cases he
      subst hlast
      obtain ⟨d, hd⟩ := Option.ne_none_iff_exists'.1 h
      exact ⟨i, d, le_rfl, hd, by simp [hd]⟩

theorem shortest_value_of_zero {tie : Tie} {x : Finite} (h : x.units = 0) :
    (shortest tie x).value = 0 := by
  have hexact : exact x = ⟨0, -(unitExponent : Int)⟩ := by simp only [exact, h, Nat.zero_mul]
  have hlen : length 0 = 1 := rfl
  have hself : ∀ dropped : Nat,
      (⟨(exact x).digits / 10 ^ dropped, (exact x).exponent + dropped⟩ : Decimal).ReadsBack x := by
    intro dropped
    rw [readsBack_iff, hexact, h]
    have h0 := unitsOf_natCast (n := 0) (k := 0) (by decide)
    simpa [value] using h0
  obtain ⟨j, d, -, hd, hfind⟩ := findSome?_range (f := fun n => onGrid? tie x (1 - (n + 1)))
    (n := 17) (i := 0) (by decide) (onGrid?_ne_none (.inl rfl) (hself _))
  have hshort : shortest tie x = d := by
    unfold shortest
    simp only [hexact, hlen, hfind, Option.getD_some]
  have hcases := onGrid?_cases hd
  simp only [hexact, Nat.zero_div] at hcases
  rcases hcases with heq | ⟨-, hnear⟩
  · rw [hshort, heq]
    simp [value]
  · have hzero := hself (1 - (j + 1))
    simp only [hexact, Nat.zero_div] at hzero
    have hpos : 0 < 10 ^ (1 - (j + 1)) := by positivity
    have := hnear hzero
    omega

/-- A whole number of at most 53 bits is written by its own digits. -/
theorem shortest_value_of_whole {tie : Tie} {x : Finite} {m : Nat} (hm : m ≤ 2 ^ 53)
    (hx : x.units = m * 2 ^ unitExponent) : (shortest tie x).value = m := by
  rcases Nat.eq_zero_or_pos m with rfl | hpos
  · rw [Nat.cast_zero]
    exact shortest_value_of_zero (by rw [hx, Nat.zero_mul])
  have hlen : length (exact x).digits = length m + unitExponent := by
    rw [exact_digits_of_whole hx, length_mul_pow hpos]
  have hlong : 0 < length m := Nat.length_toDigits_pos
  have hshort : length m ≤ 16 :=
    (Nat.length_toDigits_le_iff (by decide) (by decide)).2 (Nat.lt_of_le_of_lt hm (by decide))
  -- The grid of whole numbers is among those searched, and the number itself reads back there.
  have hlast : length m + unitExponent - (length m - 1 + 1) = unitExponent := by omega
  have hself : (⟨(exact x).digits / 10 ^ unitExponent, (exact x).exponent + unitExponent⟩ :
      Decimal).ReadsBack x := by
    have hquot : (exact x).digits / 10 ^ unitExponent = m := by
      rw [exact_digits_of_whole hx]
      exact Nat.mul_div_cancel _ (by positivity)
    rw [readsBack_iff, hquot, hx]
    have hval := value_of_exponent m 0
    have hkept := unitsOf_natCast (n := m) (k := 0) hm
    rw [Nat.pow_zero, Nat.mul_one] at hval hkept
    rw [← hkept, ← hval]
    rfl
  obtain ⟨j, d, hj, hd, hfind⟩ := findSome?_range
    (f := fun n => onGrid? tie x (length m + unitExponent - (n + 1))) (n := 17)
    (i := length m - 1) (by omega) (by simp only [hlast]; exact onGrid?_ne_none (.inl rfl) hself)
  have hdrop : length m + unitExponent - (j + 1) = unitExponent + (length m - (j + 1)) := by omega
  simp only [hdrop] at hd
  have hvalue := onGrid?_of_whole hm hx hd
  unfold shortest
  simp only [hlen, hfind, Option.getD_some, hvalue]

end Decimal

namespace Finite

/-- The number that the shortest digits write. -/
def written (tie : Tie) (x : Finite) : ℚ :=
  let size := (Decimal.shortest tie x).value
  if x.negative then -size else size

end Finite

namespace Decimal

theorem shortest_congr {tie : Tie} {x y : Finite} (h : x.units = y.units) :
    shortest tie x = shortest tie y := by
  have hexact : exact x = exact y := by simp only [exact, h]
  have hreads : ∀ d : Decimal, d.ReadsBack x ↔ d.ReadsBack y := fun d => by
    rw [readsBack_iff, readsBack_iff, h]
  have hgrid : ∀ dropped, onGrid? tie x dropped = onGrid? tie y dropped := fun dropped => by
    simp only [onGrid?, hexact, hreads]
  simp only [shortest, hexact, hgrid]

end Decimal

namespace Finite

theorem signed_le_of_written_le {tie : Tie} {x y : Finite} (h : x.written tie ≤ y.written tie) :
    x.signed ≤ y.signed := by
  have hx := Decimal.readsBack_iff.1 (Decimal.shortest_readsBack tie x)
  have hy := Decimal.readsBack_iff.1 (Decimal.shortest_readsBack tie y)
  have hx0 := (Decimal.shortest tie x).value_nonneg
  have hy0 := (Decimal.shortest tie y).value_nonneg
  unfold written at h
  unfold signed
  rcases hnx : x.negative <;> rcases hny : y.negative <;> simp only [hnx, hny] at h ⊢
  · have := unitsOf_mono hx0 (by simpa using h)
    simp only [Bool.false_eq_true, if_false]
    omega
  · -- A size below a negative one is zero, and so are both counts.
    have hxv : (Decimal.shortest tie x).value = 0 := by simp at h; linarith
    have hyv : (Decimal.shortest tie y).value = 0 := by simp at h; linarith
    rw [hxv, ← hyv, hy] at hx
    rw [hyv] at hy
    have hzero : unitsOf 0 = 0 := by
      have := unitsOf_natCast (n := 0) (k := 0) (by decide)
      simpa using this
    simp only [Bool.false_eq_true, if_false, if_true]
    omega
  · simp only [Bool.false_eq_true, if_false, if_true]
    omega
  · have := unitsOf_mono hy0 (by simpa using h)
    simp only [if_true]
    omega

theorem written_eq_of_signed_eq {tie : Tie} {x y : Finite} (h : x.signed = y.signed) :
    x.written tie = y.written tie := by
  have hunits : x.units = y.units := by
    unfold signed at h
    split at h <;> split at h <;> omega
  unfold written
  rw [Decimal.shortest_congr hunits]
  by_cases hzero : y.units = 0
  · have hv : (Decimal.shortest tie y).value = (0 : Nat) :=
      Decimal.shortest_value_of_whole (by decide) (by simpa using hzero)
    simp [hv]
  · have hsign : x.negative = y.negative := by
      unfold signed at h
      rcases hnx : x.negative <;> rcases hny : y.negative <;> simp [hnx, hny] at h ⊢ <;> omega
    rw [hsign]

/-- The shortest digits keep the order of the numbers. -/
theorem compare_written (tie : Tie) (x y : Finite) :
    compare (x.written tie) (y.written tie) = compare x.signed y.signed := by
  rcases lt_trichotomy x.signed y.signed with h | h | h
  · have hlt : x.written tie < y.written tie :=
      lt_of_not_ge fun hle => absurd (signed_le_of_written_le hle) (not_le.2 h)
    rw [compare_lt_iff_lt.2 h, compare_lt_iff_lt.2 hlt]
  · rw [compare_eq_iff_eq.2 h, compare_eq_iff_eq.2 (written_eq_of_signed_eq h)]
  · have hgt : y.written tie < x.written tie :=
      lt_of_not_ge fun hle => absurd (signed_le_of_written_le hle) (not_le.2 h)
    rw [compare_gt_iff_gt.2 h, compare_gt_iff_gt.2 hgt]

end Finite

end Sieve
