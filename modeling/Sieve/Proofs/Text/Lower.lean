import Mathlib
import Sieve.Text.Lower

/-!
# Sieve.Proofs.Text.Lower

Lower-casing once is enough: every character that comes out of it is its own lower case, and none is
a capital sigma, whose lower case hangs on its neighbours: `lower_lower`.
-/

namespace Sieve
namespace Text

namespace CaseRun

/-- The lower cases of a run, as a run. -/
def image (r : CaseRun) : CaseRun where
  first := ((r.first : Int) + r.shift).toNat
  last := ((r.last : Int) + r.shift).toNat
  stride := r.stride
  shift := 0

/-- Two runs have no character in common: one ends before the other starts, or they go by twos and
are out of step. -/
def isApart (r s : CaseRun) : Bool :=
  Nat.blt r.last s.first || Nat.blt s.last r.first ||
    (s.stride == 2 && (r.stride == 2 || r.first == r.last) && (r.first + s.first) % 2 == 1)

theorem covers_iff {r : CaseRun} {code : Nat} :
    r.covers code = true ↔
      r.first ≤ code ∧ code ≤ r.last ∧ (code - r.first) % r.stride = 0 := by
  simp [covers, and_assoc]

theorem not_covers_of_isApart {r s : CaseRun} (h : r.isApart s = true) {code : Nat}
    (hr : r.covers code = true) : s.covers code = false := by
  rw [covers_iff] at hr
  obtain ⟨hfirst, hlast, hstep⟩ := hr
  rw [← Bool.not_eq_true, covers_iff]
  rintro ⟨hfirst', hlast', hstep'⟩
  simp only [isApart, Bool.or_eq_true, Bool.and_eq_true, Nat.blt_eq, beq_iff_eq] at h
  rcases h with (h | h) | ⟨⟨htwo, hstride⟩, hodd⟩
  · omega
  · omega
  · rw [htwo] at hstep'
    rcases hstride with hstride | hsingle
    · rw [hstride] at hstep
      omega
    · omega

theorem covers_image {r : CaseRun} (h : 0 ≤ (r.first : Int) + r.shift) {code : Nat}
    (hr : r.covers code = true) : r.image.covers ((code : Int) + r.shift).toNat = true := by
  rw [covers_iff] at hr ⊢
  obtain ⟨hfirst, hlast, hstep⟩ := hr
  have hdistance : ((code : Int) + r.shift).toNat - ((r.first : Int) + r.shift).toNat =
      code - r.first := by
    omega
  refine ⟨?_, ?_, ?_⟩
  · simp only [image]
    omega
  · simp only [image]
    omega
  · simp only [image, hdistance]
    exact hstep

end CaseRun

/-- The characters that lower-casing changes: capitals of ASCII, the dotted capital i, and the
runs. -/
def capitalRuns : List CaseRun := ⟨0x41, 0x5A, 1, 32⟩ :: ⟨0x130, 0x130, 1, 0⟩ :: lowerRuns

/-- A character that lower-casing does not change. -/
def isSettled (c : Char) : Bool := capitalRuns.all fun run => !run.covers c.toNat

theorem images_areApart : (lowerRuns.all fun r =>
    decide (0 ≤ (r.first : Int) + r.shift) && capitalRuns.all r.image.isApart) = true := by
  decide +kernel

/-- No lower case of a run is changed again. -/
theorem image_isApart {r s : CaseRun} (hr : r ∈ lowerRuns) (hs : s ∈ capitalRuns) :
    0 ≤ (r.first : Int) + r.shift ∧ r.image.isApart s = true := by
  have h := List.all_eq_true.1 images_areApart r hr
  rw [Bool.and_eq_true, decide_eq_true_iff] at h
  exact ⟨h.1, List.all_eq_true.1 h.2 s hs⟩

theorem isSettled_iff {c : Char} :
    isSettled c = true ↔ ∀ run ∈ capitalRuns, run.covers c.toNat = false := by
  simp [isSettled]

/-- The characters that lower-casing writes for those that it treats apart, and these. -/
theorem isSettled_marks :
    (['\x00', 'i', '\u0307', '\u03C2', '\u03C3'].all isSettled) = true ∧
      isSettled '\u0130' = false ∧ isSettled '\u03A3' = false := by
  decide +kernel

theorem isSettled_of_mem_marks {c : Char} (h : c ∈ ['\x00', 'i', '\u0307', '\u03C2', '\u03C3']) :
    isSettled c = true :=
  List.all_eq_true.1 isSettled_marks.1 c h

/-- All runs lie behind ASCII. -/
theorem first_of_mem_lowerRuns {run : CaseRun} (h : run ∈ lowerRuns) : 128 ≤ run.first := by
  have hall : (lowerRuns.all fun run => Nat.ble 128 run.first) = true := by decide +kernel
  exact Nat.le_of_ble_eq_true (List.all_eq_true.1 hall run h)

theorem isSettled_toLower {c : Char} (h : c.toNat < 128) : isSettled c.toLower = true := by
  have hupper : ¬ (65 ≤ c.toLower.toNat ∧ c.toLower.toNat ≤ 90) := by
    have hlower := c.isUpper_toLower_eq_false
    simp only [Char.isUpper, decide_eq_false_iff_not, ge_iff_le, UInt32.le_iff_toNat_le] at hlower
    exact hlower
  have hascii : c.toLower.toNat < 128 := by
    by_cases hc : c.isUpper
    · have hvalid : (c.toNat + 32).isValidChar := by left; omega
      rw [Char.toLower_eq_of_isUpper hc, Char.toNat_ofNat, if_pos hvalid]
      simp only [Char.isUpper, decide_eq_true_eq, UInt32.le_iff_toNat_le] at hc
      have hlast : c.toNat ≤ 90 := hc.2
      omega
    · rwa [Char.toLower_eq_of_not_isUpper hc]
  refine isSettled_iff.2 fun run hrun => ?_
  rw [← Bool.not_eq_true, CaseRun.covers_iff]
  rintro ⟨hfirst, hlast, -⟩
  rcases List.mem_cons.1 hrun with rfl | hrun
  · exact hupper ⟨hfirst, hlast⟩
  · rcases List.mem_cons.1 hrun with rfl | hrun
    · simp only at hfirst
      omega
    · have hbehind := first_of_mem_lowerRuns hrun
      omega

theorem toLower_of_isSettled {c : Char} (h : isSettled c = true) : c.toLower = c := by
  have hcapital := isSettled_iff.1 h ⟨0x41, 0x5A, 1, 32⟩ (List.mem_cons_self ..)
  refine Char.toLower_eq_of_not_isUpper ?_
  intro hupper
  simp only [Char.isUpper, decide_eq_true_eq, ge_iff_le,
    UInt32.le_iff_toNat_le] at hupper
  rw [← Bool.not_eq_true, CaseRun.covers_iff] at hcapital
  exact hcapital ⟨hupper.1, hupper.2, Nat.mod_one _⟩

theorem lowerChar_of_isSettled {c : Char} (h : isSettled c = true) : lowerChar c = [c] := by
  have hall := isSettled_iff.1 h
  have hdotted : c ≠ '\u0130' := by
    rintro rfl
    rw [isSettled_marks.2.1] at h
    cases h
  have hrun : lowerRuns.find? (·.covers c.toNat) = none := by
    rw [List.find?_eq_none]
    intro run hrun
    simp [hall run (List.mem_cons_of_mem _ (List.mem_cons_of_mem _ hrun))]
  unfold lowerChar
  rw [toLower_of_isSettled h, if_neg hdotted, hrun]
  split <;> rfl

/-- A code that no run covers is that of a settled character, or of no character at all; then the
character with the code 0 stands for it. -/
theorem isSettled_ofNat {code : Nat} (h : ∀ run ∈ capitalRuns, run.covers code = false) :
    isSettled (Char.ofNat code) = true := by
  by_cases hvalid : code.isValidChar
  · rw [isSettled_iff, Char.toNat_ofNat, if_pos hvalid]
    exact h
  · have hzero : Char.ofNat code = '\x00' := by
      apply Char.toNat_inj.1
      rw [Char.toNat_ofNat, if_neg hvalid]
      rfl
    rw [hzero]
    exact isSettled_of_mem_marks (by simp)

theorem isSettled_of_mem_lowerChar {c x : Char} (h : x ∈ lowerChar c) : isSettled x = true := by
  unfold lowerChar at h
  split at h
  · next hascii =>
    rw [List.mem_singleton.1 h]
    exact isSettled_toLower hascii
  · next hascii =>
    split at h
    · rcases List.mem_cons.1 h with rfl | h
      · exact isSettled_of_mem_marks (by simp)
      · rw [List.mem_singleton.1 h]
        exact isSettled_of_mem_marks (by simp)
    · next hdotted =>
      split at h
      · next run hfound =>
        rw [List.mem_singleton.1 h]
        have hrun := List.mem_of_find?_eq_some hfound
        have hcovers : run.covers c.toNat = true := by simpa using List.find?_some hfound
        refine isSettled_ofNat fun other hother => ?_
        obtain ⟨hsmall, hapart⟩ := image_isApart hrun hother
        exact CaseRun.not_covers_of_isApart hapart (CaseRun.covers_image hsmall hcovers)
      · next hfound =>
        rw [List.mem_singleton.1 h, isSettled_iff]
        intro run hrun
        rcases List.mem_cons.1 hrun with rfl | hrun
        · rw [← Bool.not_eq_true, CaseRun.covers_iff]
          rintro ⟨-, hlast, -⟩
          simp only at hlast
          omega
        · rcases List.mem_cons.1 hrun with rfl | hrun
          · rw [← Bool.not_eq_true, CaseRun.covers_iff]
            rintro ⟨hfirst, hlast, -⟩
            exact hdotted (Char.toNat_inj.1 (Nat.le_antisymm hlast hfirst))
          · simpa using List.find?_eq_none.1 hfound run hrun

/-- All that lower-casing writes is settled. -/
theorem isSettled_of_mem_lowerAfter {before cs : List Char} {x : Char}
    (h : x ∈ lowerAfter before cs) : isSettled x = true := by
  induction cs generalizing before with
  | nil => cases h
  | cons c rest ih =>
    rw [lowerAfter] at h
    rcases List.mem_append.1 h with h | h
    · split at h
      · split at h
        · rw [List.mem_singleton.1 h]
          exact isSettled_of_mem_marks (by simp)
        · rw [List.mem_singleton.1 h]
          exact isSettled_of_mem_marks (by simp)
      · exact isSettled_of_mem_lowerChar h
    · exact ih h

/-- Settled characters stay as they are, whatever stands around them. -/
theorem lowerAfter_of_isSettled {cs : List Char} (h : ∀ c ∈ cs, isSettled c = true)
    (before : List Char) : lowerAfter before cs = cs := by
  induction cs generalizing before with
  | nil => rfl
  | cons c rest ih =>
    obtain ⟨hc, hrest⟩ := List.forall_mem_cons.1 h
    have hsigma : c ≠ '\u03A3' := by
      rintro rfl
      rw [isSettled_marks.2.2] at hc
      cases hc
    rw [lowerAfter, if_neg hsigma, lowerChar_of_isSettled hc, ih hrest]
    rfl

theorem lower_lower (s : String) : lower (lower s) = lower s := by
  have hsettled : ∀ c ∈ lowerAfter [] s.toList, isSettled c = true :=
    fun c hc => isSettled_of_mem_lowerAfter hc
  rw [lower, lower, String.toList_ofList, lowerAfter_of_isSettled hsettled]

end Text
end Sieve
