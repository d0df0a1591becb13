import Sieve.Proofs.Json.Documents

/-!
# Sieve.Proofs.Json.NumberLiterals

The grammar of JSON numbers as data: a sign, digits without a needless zero in front, digits after a
point and an exponent. `NumberLiteral.decoded` is what a decoder that rounds correctly makes of a
literal: the integer if 64 bits hold it, save `-0`, and else the nearest number of binary64. The
reader takes every literal for its parts (`number?_literal`) and decodes it wherever its binary64
arithmetic comes to the nearest number (`value?_eq_decoded`).
-/

namespace Sieve

def Binary64.finite? : Binary64 → Option Finite
  | .finite x => some x
  | _ => none

namespace Json

open Text (Stops)

/-- One digit or more. -/
structure Digits where
  chars : List Char
  nonempty : chars ≠ []
  digits : ∀ c ∈ chars, c.isDigit = true

theorem Digits.start (d : Digits) : ∃ c cs, d.chars = c :: cs ∧ c.isDigit = true := by
  obtain ⟨c, cs, hcs⟩ := List.exists_cons_of_ne_nil d.nonempty
  exact ⟨c, cs, hcs, d.digits c (hcs ▸ List.mem_cons_self ..)⟩

inductive ExponentSign where
  | none
  | plus
  | minus
  deriving DecidableEq

def ExponentSign.chars : ExponentSign → List Char
  | .none => []
  | .plus => ['+']
  | .minus => ['-']

structure Exponent where
  capital : Bool
  sign : ExponentSign
  digits : Digits

namespace Exponent

def mark (e : Exponent) : Char := if e.capital then 'E' else 'e'

theorem mark_cases (e : Exponent) : e.mark = 'e' ∨ e.mark = 'E' := by
  unfold mark
  cases e.capital with
  | false => exact .inl rfl
  | true => exact .inr rfl

def chars (e : Exponent) : List Char := e.mark :: (e.sign.chars ++ e.digits.chars)

def value (e : Exponent) : Int :=
  if e.sign = .minus then -(Natural.ofDigits e.digits.chars : Int)
  else Natural.ofDigits e.digits.chars

end Exponent

structure NumberLiteral where
  negative : Bool
  whole : Digits
  fraction : Option Digits
  exponent : Option Exponent
  tidy : whole.chars.head? = some '0' → whole.chars = ['0']

/-- The point and the digits behind it, if there are any. -/
def fractionChars : Option Digits → List Char
  | none => []
  | some d => '.' :: d.chars

def exponentChars : Option Exponent → List Char
  | none => []
  | some e => e.chars

namespace NumberLiteral

/-- The literal without its sign. -/
def body (n : NumberLiteral) : List Char :=
  n.whole.chars ++ (fractionChars n.fraction ++ exponentChars n.exponent)

def chars (n : NumberLiteral) : List Char := Binary64.withSign n.negative n.body

def text (n : NumberLiteral) : String := String.ofList n.chars

/-- The parts that the reader takes it for. -/
def numeral (n : NumberLiteral) : Numeral :=
  ⟨n.negative, n.whole.chars, n.fraction.map Digits.chars, n.exponent.map Exponent.value⟩

/-- Neither a point nor an exponent is written. -/
def IsInteger (n : NumberLiteral) : Prop := n.fraction = none ∧ n.exponent = none

/-- The integer that the sign and the digits before the point write. -/
def integer (n : NumberLiteral) : Int :=
  if n.negative then -(Natural.ofDigits n.whole.chars : Int) else Natural.ofDigits n.whole.chars

/-- Written as an integer of 64 bits, signed or unsigned. -/
def Fits (n : NumberLiteral) : Prop :=
  n.IsInteger ∧ -2 ^ 63 ≤ n.integer ∧ n.integer < 2 ^ 64

/-- The literal `-0`. -/
def IsMinusZero (n : NumberLiteral) : Prop := n.IsInteger ∧ n.negative = true ∧ n.integer = 0

/-- The size of the number that is written. -/
def decimal (n : NumberLiteral) : Decimal :=
  let fraction := (n.fraction.map Digits.chars).getD []
  ⟨Natural.ofDigits (n.whole.chars ++ fraction),
    (n.exponent.map Exponent.value).getD 0 - fraction.length⟩

/-- The binary64 number nearest to the one that is written. -/
def nearest (n : NumberLiteral) : Binary64 := Binary64.ofRat n.negative n.decimal.value

instance (n : NumberLiteral) : Decidable n.IsInteger :=
  decidable_of_iff (n.fraction.isNone ∧ n.exponent.isNone) (by
    simp only [IsInteger, Option.isNone_iff_eq_none])

instance (n : NumberLiteral) : Decidable n.Fits := inferInstanceAs (Decidable (_ ∧ _))

instance (n : NumberLiteral) : Decidable n.IsMinusZero := inferInstanceAs (Decidable (_ ∧ _))

/-- The value of the literal: an integer that 64 bits hold, though not `-0`, or else the nearest
number of binary64. A literal out of range has none. -/
def decoded (n : NumberLiteral) : Option Json :=
  if n.IsMinusZero then some (.decimal (.zero true))
  else if h : n.Fits then some (.integer ⟨n.integer, h.2.1, h.2.2⟩)
  else n.nearest.finite?.map .decimal

end NumberLiteral

namespace Reader

section Parts

variable {rest : List Char}

theorem whole?_digits (n : NumberLiteral) (h : Stops Char.isDigit rest) :
    whole? (n.whole.chars ++ rest) = some (n.whole.chars, rest) := by
  unfold whole?
  rw [Text.takeWhile_run n.whole.digits h, Text.dropWhile_run n.whole.digits h]
  dsimp only
  split
  · rename_i hnil
    exact absurd hnil n.whole.nonempty
  · rename_i hzero
    have hone := n.tidy (by rw [hzero]; rfl)
    rw [hone] at hzero
    cases hzero
  · rfl

theorem fraction?_chars (fraction : Option Digits)
    (h : Stops (fun c => c.isDigit || c == '.') rest) :
    fraction? (fractionChars fraction ++ rest) = some (fraction.map Digits.chars, rest) := by
  cases fraction with
  | none =>
    cases rest with
    | nil => rfl
    | cons c rest =>
      have hc : c ≠ '.' := by
        rintro rfl
        exact absurd (Text.stops_cons.1 h) (by decide)
      simp [fractionChars, fraction?, hc]
  | some d =>
    have hdigit : Stops Char.isDigit rest := fun c hc => (Bool.or_eq_false_iff.1 (h c hc)).1
    have hne : d.chars.isEmpty = false := List.isEmpty_eq_false_iff.2 d.nonempty
    simp only [fractionChars, List.cons_append, fraction?, Text.takeWhile_run d.digits hdigit,
      Text.dropWhile_run d.digits hdigit, hne, Bool.false_eq_true, if_false, Option.map_some]

theorem splitSign_chars (sign : ExponentSign) (d : Digits) (rest : List Char) :
    Binary64.splitSign (sign.chars ++ (d.chars ++ rest)) =
      (decide (sign = .minus), d.chars ++ rest) := by
  cases sign with
  | plus => rfl
  | minus => rfl
  | none =>
    obtain ⟨c, cs, hcs, hc⟩ := d.start
    rw [hcs]
    exact Binary64.splitSign_withSign false hc

theorem exponent?_chars (exponent : Option Exponent) (h : Stops goesOn rest) :
    exponent? (exponentChars exponent ++ rest) = some (exponent.map Exponent.value, rest) := by
  cases exponent with
  | none =>
    cases rest with
    | nil => rfl
    | cons c rest =>
      have hc : ¬ (c = 'e' ∨ c = 'E') := by
        rintro (rfl | rfl) <;> exact absurd (Text.stops_cons.1 h) (by decide)
      simp [exponentChars, exponent?, hc]
  | some e =>
    have hdigit := stops_digit h
    have hne : e.digits.chars.isEmpty = false := List.isEmpty_eq_false_iff.2 e.digits.nonempty
    simp only [exponentChars, Exponent.chars, List.cons_append, List.append_assoc, exponent?,
      e.mark_cases, if_true, splitSign_chars, Text.takeWhile_run e.digits.digits hdigit,
      Text.dropWhile_run e.digits.digits hdigit, hne, Bool.false_eq_true, if_false,
      decide_eq_true_eq, Option.map_some, Exponent.value]

/-- Neither an exponent nor what stands behind a literal goes on with its digits. -/
theorem stops_exponent (exponent : Option Exponent) (h : Stops goesOn rest) :
    Stops (fun c => c.isDigit || c == '.') (exponentChars exponent ++ rest) := by
  cases exponent with
  | none =>
    intro c hc
    have hstop := h c hc
    simp only [goesOn, Bool.or_eq_false_iff] at hstop ⊢
    exact hstop.1.1
  | some e =>
    refine Text.stops_cons.2 ?_
    rcases e.mark_cases with hmark | hmark <;> rw [hmark] <;> rfl

theorem stops_fraction (n : NumberLiteral) (h : Stops goesOn rest) :
    Stops Char.isDigit (fractionChars n.fraction ++ (exponentChars n.exponent ++ rest)) := by
  cases n.fraction with
  | none => exact fun c hc => (Bool.or_eq_false_iff.1 (stops_exponent n.exponent h c hc)).1
  | some d => exact Text.stops_cons.2 (by decide)

end Parts

/-- What a literal starts with behind its sign. -/
theorem body_start (n : NumberLiteral) : ∃ c cs, n.body = c :: cs ∧ c.isDigit = true := by
  obtain ⟨c, cs, hcs, hc⟩ := n.whole.start
  exact ⟨c, _, by rw [NumberLiteral.body, hcs, List.cons_append], hc⟩

/-- A literal is taken for its parts, whatever stands behind it. -/
theorem number?_literal (n : NumberLiteral) {rest : List Char} (h : Stops goesOn rest) :
    number? (n.chars ++ rest) = n.numeral.value?.map fun j => (j, rest) := by
  obtain ⟨c, cs, hcs, hc⟩ := body_start n
  have hchars : n.chars ++ rest = Binary64.withSign n.negative (c :: (cs ++ rest)) := by
    rw [NumberLiteral.chars, hcs]
    cases n.negative <;> rfl
  rw [hchars, number?_withSign _ _ hc, ← List.cons_append, ← hcs, NumberLiteral.body,
    List.append_assoc, List.append_assoc]
  simp only [unsigned?, whole?_digits n (stops_fraction n h), bind, Option.bind_some,
    fraction?_chars n.fraction (stops_exponent n.exponent h), exponent?_chars n.exponent h]
  change (n.numeral.value?.bind fun j => pure (j, rest)) = _
  cases n.numeral.value? <;> rfl

theorem value?_literal (n : NumberLiteral) {rest : List Char} (h : Stops goesOn rest)
    (fuel depth : Nat) :
    value? (fuel + 1) depth (n.chars ++ rest) = n.numeral.value?.map fun j => (j, rest) := by
  have hstart : ∃ c cs, n.chars = c :: cs ∧ (c.isDigit = true ∨ c = '-') := by
    obtain ⟨c, cs, hcs, hc⟩ := body_start n
    rw [NumberLiteral.chars, hcs]
    cases n.negative with
    | true => exact ⟨'-', c :: cs, rfl, .inr rfl⟩
    | false => exact ⟨c, cs, rfl, .inl hc⟩
  obtain ⟨c, cs, hcs, hc⟩ := hstart
  have hread := number?_literal n h
  rw [hcs] at hread ⊢
  exact (value?_number hc _ _ _).trans hread

end Reader

namespace NumberLiteral

variable {n : NumberLiteral}

theorem integer?_numeral : n.numeral.integer? = if n.IsInteger then some n.integer else none := by
  simp only [Numeral.integer?, numeral, Option.isNone_map, Option.isNone_iff_eq_none]
  exact if_congr .rfl rfl rfl

theorem IsMinusZero.fits (h : n.IsMinusZero) : n.Fits := by
  refine ⟨h.1, ?_, ?_⟩ <;> rw [h.2.2] <;> decide

theorem IsMinusZero.numeral_eq (h : n.IsMinusZero) : n.numeral = ⟨true, ['0'], none, none⟩ := by
  obtain ⟨⟨hfraction, hexponent⟩, hnegative, hzero⟩ := h
  obtain ⟨c, cs, hcs, hc⟩ := n.whole.start
  have hcount : Natural.ofDigits ([c] ++ cs) = 0 := by
    rw [integer, if_pos hnegative, hcs] at hzero
    exact_mod_cast neg_eq_zero.1 hzero
  have hfirst : digitValue c = 0 := by
    rw [ofDigits_append] at hcount
    have hsingle : Natural.ofDigits [c] = digitValue c := by simp [Natural.ofDigits]
    rw [hsingle] at hcount
    exact (Nat.mul_eq_zero.1 (Nat.add_eq_zero_iff.1 hcount).1).resolve_right (by positivity)
  have hchar : c = '0' := by
    simp only [Char.isDigit, Bool.and_eq_true, decide_eq_true_eq, UInt32.le_iff_toNat_le] at hc
    have hcode : c.toNat = '0'.toNat := by
      have hlow : '0'.toNat ≤ c.toNat := hc.1
      unfold digitValue at hfirst
      omega
    exact Char.toNat_inj.1 hcode
  have hone := n.tidy (by rw [hcs, hchar]; rfl)
  rw [numeral, hfraction, hexponent, hnegative, hone]
  rfl

/-- The reader keeps the sign of a zero, and so makes no integer of it. -/
theorem value?_of_isMinusZero (h : n.IsMinusZero) :
    n.numeral.value? = some (.decimal (.zero true)) := by
  have hinteger : n.numeral.integer?.bind Integer64.ofInt? = some ⟨0, by decide, by decide⟩ := by
    rw [h.numeral_eq]
    decide
  have hdecimal : n.numeral.approximate? = some (.zero true) := by
    rw [h.numeral_eq]
    decide +kernel
  have hsign : n.numeral.negative = true := h.2.1
  rw [Numeral.value?, hinteger]
  simp only [hsign, and_self, if_true, hdecimal, Option.map_some]

theorem value?_of_fits (h : n.Fits) (hzero : ¬ n.IsMinusZero) :
    n.numeral.value? = some (.integer ⟨n.integer, h.2.1, h.2.2⟩) := by
  have hfits : Integer64.ofInt? n.integer = some ⟨n.integer, h.2.1, h.2.2⟩ := dif_pos h.2
  have hsign : ¬ (n.numeral.negative = true ∧ n.integer = 0) := fun hboth =>
    hzero ⟨h.1, hboth.1, hboth.2⟩
  simp only [Numeral.value?, integer?_numeral, if_pos h.1, Option.bind_some, hfits, if_neg hsign]

theorem value?_of_not_fits (h : ¬ n.Fits) :
    n.numeral.value? = n.numeral.approximate?.map .decimal := by
  have hnone : n.numeral.integer?.bind Integer64.ofInt? = none := by
    rw [integer?_numeral]
    by_cases hinteger : n.IsInteger
    · rw [if_pos hinteger, Option.bind_some]
      exact dif_neg fun hrange => h ⟨hinteger, hrange⟩
    · rw [if_neg hinteger]
      rfl
  simp only [Numeral.value?, hnone]

/-- The reader decodes a literal wherever its arithmetic comes to the nearest number. -/
theorem value?_eq_decoded (h : ¬ n.Fits → n.numeral.approximate? = n.nearest.finite?) :
    n.numeral.value? = n.decoded := by
  unfold decoded
  split
  · rename_i hzero
    exact value?_of_isMinusZero hzero
  · rename_i hzero
    split
    · rename_i hfits
      exact value?_of_fits hfits hzero
    · rename_i hfits
      rw [value?_of_not_fits hfits, h hfits]

end NumberLiteral

end Json
end Sieve
