import Sieve.Json.Printer
import Sieve.Json.Reader
import Sieve.Proofs.Number.Characters
import Sieve.Proofs.Predicate.Operands

/-!
# Sieve.Proofs.Json.Literals

Printed texts and numbers read back. Whatever a text consists of, its quotes close where they should
(`quoted?_escaped`). A number reads back in front of anything that does not go on with it, if it
does by itself; integers always do (`number?_integer`), other numbers not always, since the reader
computes them in binary64 arithmetic. `ReadsBack` says that one does.
-/

namespace Sieve
namespace Json

open Text (Stops)

def decimal? : Json → Option Finite
  | .decimal x => some x
  | _ => none

/-- The printed number reads back by itself. -/
def ReadsBack (x : Finite) : Prop := read? (decimal x).compact = some (.decimal x)

theorem readsBack_iff {x : Finite} :
    ReadsBack x ↔ (read? (decimal x).compact).bind decimal? = some x := by
  constructor
  · intro h
    rw [h]
    rfl
  · intro h
    obtain ⟨j, hread, hj⟩ := Option.bind_eq_some_iff.1 h
    cases j <;> cases hj
    exact hread

instance (x : Finite) : Decidable (ReadsBack x) := decidable_of_iff _ readsBack_iff.symm

namespace Reader

section Quoted

theorem hexValue?_hexDigit : ∀ n < 16, hexValue? (hexDigit n) = some n := by decide

/-- The escape of a character below the blank that has no name. -/
theorem unicodeEscape?_control {c : Char} (h : c.toNat < 0x20) (rest : List Char) :
    unicodeEscape? ('0' :: '0' :: hexDigit (c.toNat / 16) :: hexDigit (c.toNat % 16) :: rest) =
      some (c, rest) := by
  have hzero : hexValue? '0' = some 0 := by decide
  have hhigh := hexValue?_hexDigit (c.toNat / 16) (by omega)
  have hlow := hexValue?_hexDigit (c.toNat % 16) (by omega)
  have hcode : ((0 * 16 + 0) * 16 + c.toNat / 16) * 16 + c.toNat % 16 = c.toNat := by omega
  have hnotHigh : isHighHalf c.toNat = false := by simp [isHighHalf]; omega
  have hnotLow : isLowHalf c.toNat = false := by simp [isLowHalf]; omega
  simp only [unicodeEscape?, hexFour?, hzero, hhigh, hlow, bind, Option.bind, pure, hcode,
    hnotHigh, hnotLow, Bool.false_eq_true, if_false, Char.ofNat_toNat]

theorem quoted?_backslash {e : List Char} {c : Char} (rest : List Char) (fuel : Nat)
    (h : escape? (e ++ rest) = some (c, rest)) :
    quoted? (fuel + 1) ('\\' :: (e ++ rest)) =
      (quoted? fuel rest).map fun (cs, after) => (c :: cs, after) := by
  have hquote : ('\\' : Char) ≠ '"' := by decide
  simp only [quoted?, hquote, if_false, if_true, h, bind, Option.bind, pure]
  cases quoted? fuel rest <;> rfl

/-- One escaped character reads back. -/
theorem quoted?_escapedChar (c : Char) (rest : List Char) (fuel : Nat) :
    quoted? (fuel + 1) (escaped c ++ rest) =
      (quoted? fuel rest).map fun (cs, after) => (c :: cs, after) := by
  unfold escaped
  split
  · subst_vars
    exact quoted?_backslash (e := ['"']) rest fuel rfl
  split
  · subst_vars
    exact quoted?_backslash (e := ['\\']) rest fuel rfl
  split
  · subst_vars
    exact quoted?_backslash (e := ['b']) rest fuel rfl
  split
  · subst_vars
    exact quoted?_backslash (e := ['f']) rest fuel rfl
  split
  · subst_vars
    exact quoted?_backslash (e := ['n']) rest fuel rfl
  split
  · subst_vars
    exact quoted?_backslash (e := ['r']) rest fuel rfl
  split
  · subst_vars
    exact quoted?_backslash (e := ['t']) rest fuel rfl
  split
  · rename_i hcontrol
    refine quoted?_backslash
      (e := ['u', '0', '0', hexDigit (c.toNat / 16), hexDigit (c.toNat % 16)]) rest fuel ?_
    exact unicodeEscape?_control hcontrol rest
  · rename_i hquote hslash _ _ _ _ _ hcontrol
    simp only [List.singleton_append, quoted?, hquote, hslash, hcontrol, if_false, bind,
      Option.bind, pure]
    cases quoted? fuel rest <;> rfl

/-- By induction on the text; each of its characters takes one step. -/
theorem quoted?_escaped (cs rest : List Char) {fuel : Nat} (h : cs.length < fuel) :
    quoted? fuel (cs.flatMap escaped ++ '"' :: rest) = some (cs, rest) := by
  obtain ⟨fuel, rfl⟩ := Nat.exists_eq_succ_of_ne_zero (Nat.ne_zero_of_lt h)
  induction cs generalizing fuel with
  | nil => simp [quoted?]
  | cons c cs ih =>
    have hcs : cs.length < fuel := Nat.lt_of_succ_lt_succ h
    obtain ⟨fuel, rfl⟩ := Nat.exists_eq_succ_of_ne_zero (Nat.ne_zero_of_lt hcs)
    rw [List.flatMap_cons, List.append_assoc, quoted?_escapedChar, ih fuel hcs]
    rfl

theorem length_le_escaped (cs : List Char) : cs.length ≤ (cs.flatMap escaped).length := by
  induction cs with
  | nil => exact Nat.le_refl _
  | cons c cs ih =>
    have hc : 1 ≤ (escaped c).length := by
      unfold escaped
      repeat' split
      all_goals exact Nat.succ_le_succ (Nat.zero_le _)
    rw [List.flatMap_cons, List.length_append, List.length_cons]
    omega

end Quoted

section Numbers

/-- A character that can go on with a number. -/
def goesOn (c : Char) : Bool := c.isDigit || c == '.' || c == 'e' || c == 'E'

variable {cs after rest : List Char}

theorem stops_digit (h : Stops goesOn rest) : Stops Char.isDigit rest := by
  intro c hc
  have hstop := h c hc
  simp only [goesOn, Bool.or_eq_false_iff] at hstop
  exact hstop.1.1.1

theorem whole?_append (h : Stops goesOn rest) (cs : List Char) :
    whole? (cs ++ rest) = (whole? cs).map fun (digits, after) => (digits, after ++ rest) := by
  have hdigit := stops_digit h
  unfold whole?
  rw [Text.takeWhile_append_of_stops hdigit, Text.dropWhile_append_of_stops hdigit]
  dsimp only
  split
  · rfl
  · rfl
  · rfl

theorem fraction?_append (h : Stops goesOn rest) (cs : List Char) :
    fraction? (cs ++ rest) = (fraction? cs).map fun (digits, after) => (digits, after ++ rest) := by
  have hdigit := stops_digit h
  cases cs with
  | nil =>
    cases rest with
    | nil => rfl
    | cons c rest =>
      have hc : c ≠ '.' := by
        rintro rfl
        exact absurd (Text.stops_cons.1 h) (by decide)
      simp [fraction?, hc]
  | cons c cs =>
    by_cases hc : c = '.'
    · subst hc
      simp only [List.cons_append, fraction?, Text.takeWhile_append_of_stops hdigit,
        Text.dropWhile_append_of_stops hdigit]
      split <;> rfl
    · simp [fraction?, hc]

theorem splitSign_append (c : Char) (cs rest : List Char) :
    Binary64.splitSign (c :: cs ++ rest) =
      ((Binary64.splitSign (c :: cs)).1, (Binary64.splitSign (c :: cs)).2 ++ rest) := by
  by_cases hminus : c = '-'
  · subst hminus
    rfl
  · by_cases hplus : c = '+'
    · subst hplus
      rfl
    · simp [Binary64.splitSign, hminus, hplus]

theorem exponent?_append {n : Option Int} (h : exponent? cs = some (n, after))
    (hr : Stops goesOn rest) : exponent? (cs ++ rest) = some (n, after ++ rest) := by
  have hdigit := stops_digit hr
  cases cs with
  | nil =>
    cases h
    cases rest with
    | nil => rfl
    | cons c rest =>
      have hc : ¬ (c = 'e' ∨ c = 'E') := by
        rintro (rfl | rfl) <;> exact absurd (Text.stops_cons.1 hr) (by decide)
      simp [exponent?, hc]
  | cons c cs =>
    by_cases hc : c = 'e' ∨ c = 'E'
    · simp only [exponent?, hc, if_true] at h
      simp only [List.cons_append, exponent?, hc, if_true]
      cases cs with
      | nil => cases h
      | cons d cs =>
        rw [splitSign_append]
        simp only [Text.takeWhile_append_of_stops hdigit, Text.dropWhile_append_of_stops hdigit]
        split at h
        · cases h
        · cases h
          rename_i hne
          rw [if_neg hne]
    · simp only [exponent?, hc, if_false] at h
      cases h
      simp [exponent?, hc]

/-- A number without its sign. -/
def unsigned? (negative : Bool) (cs : List Char) : Option (Json × List Char) := do
  let (whole, cs) ← whole? cs
  let (fraction, cs) ← fraction? cs
  let (exponent, cs) ← exponent? cs
  let j ← Numeral.value? ⟨negative, whole, fraction, exponent⟩
  return (j, cs)

theorem number?_withSign (negative : Bool) {c : Char} (cs : List Char) (h : c.isDigit = true) :
    number? (Binary64.withSign negative (c :: cs)) = unsigned? negative (c :: cs) := by
  cases negative with
  | true => rfl
  | false =>
    unfold number?
    split
    rename_i rest hsign
    split at hsign
    · rename_i heq
      have hc : c = '-' := (List.cons.inj heq).1
      rw [hc] at h
      exact absurd h (by decide)
    · cases hsign
      rfl

/-- A number is read the same in front of what does not go on with it. -/
theorem unsigned?_append {negative : Bool} {j : Json} (h : unsigned? negative cs = some (j, after))
    (hr : Stops goesOn rest) : unsigned? negative (cs ++ rest) = some (j, after ++ rest) := by
  simp only [unsigned?, bind, Option.bind_eq_some_iff] at h
  obtain ⟨⟨whole, a⟩, hwhole, ⟨fraction, b⟩, hfraction, ⟨exponent, d⟩, hexponent, k, hk, heq⟩ := h
  cases heq
  simp only [unsigned?, whole?_append hr, hwhole, fraction?_append hr, hfraction,
    exponent?_append hexponent hr, hk, bind, Option.bind, Option.map_some]
  rfl

/-- No needless zero stands in front. -/
theorem toDigits_head {n : Nat} (h : n ≠ 0) : ∃ c cs, Nat.toDigits 10 n = c :: cs ∧ c ≠ '0' := by
  induction n using Nat.strongRecOn with
  | ind n ih =>
    rcases Nat.lt_or_ge n 10 with hn | hn
    · have hdigit : ∀ n < 10, n ≠ 0 → Nat.digitChar n ≠ '0' := by decide
      exact ⟨_, [], Nat.toDigits_of_lt_base hn, hdigit n hn h⟩
    · obtain ⟨c, cs, hcs, hc⟩ := ih (n / 10) (by omega) (by omega)
      exact ⟨c, _, by rw [Nat.toDigits_of_base_le (by decide) hn, hcs]; rfl, hc⟩

theorem whole?_toDigits (n : Nat) :
    whole? (Nat.toDigits 10 n) = some (Nat.toDigits 10 n, []) := by
  have hdigits : ∀ c ∈ Nat.toDigits 10 n, c.isDigit = true := fun c hc =>
    isDigit_of_mem_toDigits hc
  rcases Nat.eq_zero_or_pos n with rfl | hn
  · decide
  · obtain ⟨c, cs, hcs, hc⟩ := toDigits_head (Nat.pos_iff_ne_zero.1 hn)
    rw [whole?, List.takeWhile_eq_self_iff.2 hdigits, List.dropWhile_eq_nil_iff.2 hdigits, hcs]
    split
    · rename_i heq
      cases heq
    · rename_i heq
      exact absurd (List.cons.inj heq).1 hc
    · rfl

theorem numeral_integer (n : Integer64) :
    Numeral.value? ⟨decide (n.val < 0), Nat.toDigits 10 n.val.natAbs, none, none⟩ =
      some (.integer n) := by
  have hvalue : (if n.val < 0 then -(n.val.natAbs : Int) else n.val.natAbs) = n.val := by
    split <;> omega
  have hread : Numeral.integer? ⟨decide (n.val < 0), Nat.toDigits 10 n.val.natAbs, none, none⟩ =
      some n.val := by
    simp only [Numeral.integer?, Option.isNone_none, and_self, if_true, ofDigits_toDigits,
      decide_eq_true_eq, hvalue]
  have hfits : Integer64.ofInt? n.val = some n := dif_pos ⟨n.least, n.below⟩
  have hzero : ¬ (n.val < 0 ∧ n.val = 0) := by omega
  simp only [Numeral.value?, hread, Option.bind_some, hfits, decide_eq_true_eq, hzero, if_false]

theorem unsigned?_integer (n : Integer64) :
    unsigned? (decide (n.val < 0)) (Nat.toDigits 10 n.val.natAbs) = some (.integer n, []) := by
  simp only [unsigned?, whole?_toDigits, fraction?, exponent?, numeral_integer, bind, Option.bind]
  rfl

/-- A printed integer reads back. -/
theorem number?_integer (n : Integer64) (hr : Stops goesOn rest) :
    number? (integerChars n.val ++ rest) = some (.integer n, rest) := by
  obtain ⟨c, cs, hcs, hc⟩ := toDigits_cases n.val.natAbs
  have hread := unsigned?_append (unsigned?_integer n) hr
  rw [hcs, List.cons_append] at hread
  have hchars : integerChars n.val ++ rest =
      Binary64.withSign (decide (n.val < 0)) (c :: (cs ++ rest)) := by
    rw [integerChars_eq, hcs]
    cases decide (n.val < 0) <;> rfl
  rw [hchars, number?_withSign _ _ hc]
  exact hread

theorem whole?_suffix {digits : List Char} (h : whole? cs = some (digits, after)) :
    after <:+ cs := by
  unfold whole? at h
  dsimp only at h
  split at h
  · cases h
  · cases h
  · cases h
    exact List.dropWhile_suffix _

theorem fraction?_suffix {digits : Option (List Char)} (h : fraction? cs = some (digits, after)) :
    after <:+ cs := by
  unfold fraction? at h
  split at h
  · dsimp only at h
    split at h
    · cases h
    · cases h
      exact (List.dropWhile_suffix _).trans (List.suffix_cons _ _)
  · cases h
    exact List.suffix_refl _

theorem splitSign_suffix (cs : List Char) : (Binary64.splitSign cs).2 <:+ cs := by
  unfold Binary64.splitSign
  split
  · exact List.suffix_cons _ _
  · exact List.suffix_cons _ _
  · exact List.suffix_refl _

theorem exponent?_suffix {n : Option Int} (h : exponent? cs = some (n, after)) :
    after <:+ cs := by
  unfold exponent? at h
  split at h
  · rename_i c cs
    split at h
    · dsimp only at h
      split at h
      · cases h
      · cases h
        exact ((List.dropWhile_suffix _).trans (splitSign_suffix cs)).trans (List.suffix_cons _ _)
    · cases h
      exact List.suffix_refl _
  · cases h
    exact List.suffix_refl _

theorem unsigned?_suffix {negative : Bool} {j : Json} (h : unsigned? negative cs = some (j, after)) :
    after <:+ cs := by
  simp only [unsigned?, bind, Option.bind_eq_some_iff] at h
  obtain ⟨⟨whole, a⟩, hwhole, ⟨fraction, b⟩, hfraction, ⟨exponent, d⟩, hexponent, k, -, heq⟩ := h
  cases heq
  exact ((exponent?_suffix hexponent).trans (fraction?_suffix hfraction)).trans
    (whole?_suffix hwhole)

/-- Neither a container nor a text nor a word starts with a digit or a minus. -/
theorem value?_number {c : Char} (h : c.isDigit = true ∨ c = '-') (cs : List Char)
    (fuel depth : Nat) : value? (fuel + 1) depth (c :: cs) = number? (c :: cs) := by
  have hne : ∀ d : Char, d.isDigit = false → d ≠ '-' → c ≠ d := by
    rintro d hd hminus rfl
    rcases h with h | h
    · rw [hd] at h
      cases h
    · exact hminus h
  have hblank : isBlank c = false := by
    simp [isBlank, hne ' ' (by decide) (by decide), hne '\t' (by decide) (by decide),
      hne '\n' (by decide) (by decide), hne '\r' (by decide) (by decide)]
  have hskip : skipBlank (c :: cs) = c :: cs := List.dropWhile_cons_of_neg (by simp [hblank])
  have hplain : plain? (c :: cs) = number? (c :: cs) := by
    unfold plain?
    split
    · rename_i heq
      exact absurd (List.cons.inj heq).1 (hne 'n' (by decide) (by decide))
    · rename_i heq
      exact absurd (List.cons.inj heq).1 (hne 't' (by decide) (by decide))
    · rename_i heq
      exact absurd (List.cons.inj heq).1 (hne 'f' (by decide) (by decide))
    · rfl
  rw [value?, hskip, ← hplain]
  split
  · rename_i heq
    exact absurd (List.cons.inj heq).1 (hne '"' (by decide) (by decide))
  · rename_i heq
    exact absurd (List.cons.inj heq).1 (hne '[' (by decide) (by decide))
  · rename_i heq
    exact absurd (List.cons.inj heq).1 (hne '\x7b' (by decide) (by decide))
  · rfl

theorem read?_eq (s : String) :
    read? s = (value? (2 * s.toList.length + 2) depthLimit s.toList).bind fun (j, after) =>
      if skipBlank after = [] then some j else none := by
  unfold read? readWithin? readFirst?
  dsimp only
  cases value? (2 * s.toList.length + 2) depthLimit s.toList with
  | none => rfl
  | some found =>
    obtain ⟨j, after⟩ := found
    dsimp only [Option.map_some, Option.bind_some]
    cases skipBlank after <;> rfl

theorem isBlank_of_isWritten {c : Char} (h : Layout.IsWritten c) : isBlank c = false := by
  rcases h with hdigit | rfl | rfl | rfl | rfl
  · refine eq_false_of_ne_true fun hblank => ?_
    simp only [isBlank, Bool.or_eq_true, beq_iff_eq] at hblank
    rcases hblank with ((rfl | rfl) | rfl) | rfl <;> exact absurd hdigit (by decide)
  all_goals decide

theorem decimal_chars (x : Finite) : ∃ c cs, c.isDigit = true ∧
    (∀ d ∈ c :: cs, Layout.IsWritten d) ∧
    chars (.decimal x) = Binary64.withSign x.negative (c :: cs) := by
  obtain ⟨body, hbody, ⟨c, cs, rfl, hc⟩, hall⟩ :=
    numberLayout.write_body x.negative (Decimal.shortest numberLayout.tie x)
  exact ⟨c, cs, hc, hall, by rw [chars, hbody]⟩

/-- What is read of a printed number by itself is all of it. -/
theorem unsigned?_of_readsBack {x : Finite} (h : ReadsBack x) {c : Char} {cs : List Char}
    (hc : c.isDigit = true) (hall : ∀ d ∈ c :: cs, Layout.IsWritten d)
    (hchars : chars (.decimal x) = Binary64.withSign x.negative (c :: cs)) :
    unsigned? x.negative (c :: cs) = some (.decimal x, []) := by
  have hnumber : ∀ n, value? (2 * n + 2) depthLimit (Binary64.withSign x.negative (c :: cs)) =
      unsigned? x.negative (c :: cs) := by
    intro n
    rw [← number?_withSign _ _ hc]
    cases x.negative with
    | false => exact value?_number (.inl hc) cs (2 * n + 1) depthLimit
    | true => exact value?_number (.inr rfl) (c :: cs) (2 * n + 1) depthLimit
  rw [ReadsBack, read?_eq, compact, String.toList_ofList, hchars, hnumber,
    Option.bind_eq_some_iff] at h
  obtain ⟨⟨j, after⟩, hread, h⟩ := h
  have hdark : skipBlank after = after := by
    cases after with
    | nil => rfl
    | cons d after =>
      have hd := hall d ((unsigned?_suffix hread).subset (List.mem_cons_self ..))
      exact List.dropWhile_cons_of_neg (by simp [isBlank_of_isWritten hd])
  rw [Option.ite_none_right_eq_some, hdark] at h
  rw [hread, h.1, Option.some.inj h.2]

theorem number?_decimal {x : Finite} (h : ReadsBack x) (hr : Stops goesOn rest) :
    number? (chars (.decimal x) ++ rest) = some (.decimal x, rest) := by
  obtain ⟨c, cs, hc, hall, hchars⟩ := decimal_chars x
  have hread := unsigned?_append (unsigned?_of_readsBack h hc hall hchars) hr
  have hboth : chars (.decimal x) ++ rest = Binary64.withSign x.negative (c :: (cs ++ rest)) := by
    rw [hchars]
    cases x.negative <;> rfl
  rw [hboth, number?_withSign _ _ hc]
  exact hread

end Numbers

end Reader

end Json
end Sieve
