import Mathlib
import Sieve.Text.Ascii
import Sieve.Text.Lower
import Sieve.Text.Search

/-!
# Sieve.Proofs.Text.LetterCase

What takes no notice of the case of ASCII letters: a text is cut at the same places whatever the
case of its letters (`split_map_toLower`), and has the same lower case in the sense of Unicode
(`lower_asciiLower`).
-/

namespace Sieve
namespace Text

/-- Only the capitals of ASCII have to be looked at one by one, since every other character is its
own lower case in the sense of ASCII. -/
theorem apply_toLower {α : Type} {f : Char → α}
    (h : ∀ i : Fin 26, f (Char.ofNat (65 + i)).toLower = f (Char.ofNat (65 + i))) (c : Char) :
    f c.toLower = f c := by
  by_cases hupper : c.isUpper = true
  · simp only [Char.isUpper, decide_eq_true_eq, ge_iff_le, UInt32.le_iff_toNat_le] at hupper
    have hfirst : 65 ≤ c.toNat := hupper.1
    have hlast : c.toNat ≤ 90 := hupper.2
    have hc := h ⟨c.toNat - 65, by omega⟩
    dsimp only at hc
    rwa [Nat.add_sub_cancel' hfirst, Char.ofNat_toNat] at hc
  · rw [Char.toLower_eq_of_not_isUpper hupper]

theorem lowerChar_toLower (c : Char) : lowerChar c.toLower = lowerChar c :=
  apply_toLower (by decide) c

theorem isCased_toLower (c : Char) : inRanges casedRanges c.toLower = inRanges casedRanges c :=
  apply_toLower (by decide) c

/-- No letter of ASCII is passed over. -/
theorem not_ignorable_of_letter {c : Char} (h : c.isAlpha = true) :
    inRanges ignorableRanges c = false := by
  have hall : (ignorableRanges.all fun r =>
      Nat.blt r.2 65 || (Nat.blt 90 r.1 && Nat.blt r.2 97) || Nat.blt 122 r.1) = true := by
    decide +kernel
  have hcode : 65 ≤ c.toNat ∧ c.toNat ≤ 90 ∨ 97 ≤ c.toNat ∧ c.toNat ≤ 122 := by
    simp only [Char.isAlpha, Char.isUpper, Char.isLower, Bool.or_eq_true, Bool.and_eq_true,
      decide_eq_true_eq, ge_iff_le, UInt32.le_iff_toNat_le] at h
    exact h
  rw [inRanges, List.any_eq_false]
  intro r hr
  have hbeside := List.all_eq_true.1 hall r hr
  simp only [Bool.or_eq_true, Bool.and_eq_true, Nat.blt_eq, decide_eq_true_eq] at hbeside ⊢
  omega

theorem isIgnorable_toLower (c : Char) :
    inRanges ignorableRanges c.toLower = inRanges ignorableRanges c := by
  by_cases hletter : c.isAlpha
  · rw [not_ignorable_of_letter hletter,
      not_ignorable_of_letter (c.isAlpha_toLower_eq_isAlpha.trans hletter)]
  · have hupper : ¬ c.isUpper := fun hupper => hletter (by simp [Char.isAlpha, hupper])
    rw [Char.toLower_eq_of_not_isUpper hupper]

theorem toLower_eq_iff {mark : Char}
    (h : ∀ i : Fin 26,
      decide ((Char.ofNat (65 + i)).toLower = mark) = decide (Char.ofNat (65 + i) = mark))
    (c : Char) :
    c.toLower = mark ↔ c = mark :=
  decide_eq_decide.1 (apply_toLower (f := fun c => decide (c = mark)) h c)

theorem startsCased_map_toLower (cs : List Char) :
    startsCased (cs.map Char.toLower) = startsCased cs := by
  have hpassed : inRanges ignorableRanges ∘ Char.toLower = inRanges ignorableRanges :=
    funext isIgnorable_toLower
  unfold startsCased
  rw [List.dropWhile_map, hpassed]
  cases cs.dropWhile (inRanges ignorableRanges) with
  | nil => rfl
  | cons c rest => exact isCased_toLower c

theorem lowerAfter_map_toLower (before cs : List Char) :
    lowerAfter (before.map Char.toLower) (cs.map Char.toLower) = lowerAfter before cs := by
  induction cs generalizing before with
  | nil => rfl
  | cons c rest ih =>
    have hsigma : c.toLower = '\u03A3' ↔ c = '\u03A3' := toLower_eq_iff (by decide) c
    have hrest := ih (c :: before)
    rw [List.map_cons] at hrest
    rw [List.map_cons, lowerAfter, lowerAfter, hrest, startsCased_map_toLower,
      startsCased_map_toLower, lowerChar_toLower]
    simp only [hsigma]

/-- Lower-casing by the rules of Unicode takes no notice of the case of ASCII letters. -/
theorem lower_asciiLower (s : String) : lower (asciiLower s) = lower s := by
  rw [lower, lower, asciiLower, String.toList_ofList]
  exact congrArg String.ofList (lowerAfter_map_toLower [] s.toList)

theorem split_map_toLower {mark : Char} (h : ∀ c : Char, c.toLower = mark ↔ c = mark)
    (cs : List Char) :
    split mark (cs.map Char.toLower) = (split mark cs).map (List.map Char.toLower) := by
  induction cs with
  | nil => rfl
  | cons c cs ih =>
    rw [List.map_cons, split, split, ih]
    simp only [h]
    split
    · rfl
    · cases split mark cs <;> rfl

end Text
end Sieve
