import Sieve.Proofs.Json.NumberLiterals
import Sieve.Proofs.Predicate.RoundTrip

/-!
# Sieve.Proofs.Predicate.NumberLiterals

The number literals of JSON in expressions. Expressions tell integers by their form: without a point
and an exponent a number is an integer, and 64 bits have to hold it; every other literal comes to
the nearest number of binary64 (`numberValue?_chars`). `parse_equality` is what is read of a field
and a literal.
-/

namespace Sieve

open Text (Stops)

/-- The integer as a scalar, signed if it is small enough. -/
def Integer64.scalar (i : Integer64) : Scalar :=
  match i.toInt64? with
  | some k => .int k
  | none => .uint (UInt64.ofNat i.val.toNat)

namespace Binary64

theorem ofRat_cases (negative : Bool) (q : ℚ) :
    (∃ x, ofRat negative q = .finite x) ∨ ofRat negative q = .infinite negative := by
  unfold ofRat rounded
  split
  · exact .inl ⟨_, rfl⟩
  · exact .inr rfl

theorem mem_withSign {c : Char} {negative : Bool} {cs : List Char}
    (h : c ∈ withSign negative cs) : c = '-' ∨ c ∈ cs := by
  cases negative with
  | true => exact List.mem_cons.1 h
  | false => exact .inr h

theorem mem_withSign_of_mem {c : Char} {negative : Bool} {cs : List Char} (h : c ∈ cs) :
    c ∈ withSign negative cs := by
  cases negative with
  | true => exact List.mem_cons_of_mem _ h
  | false => exact h

end Binary64

namespace Json

namespace Digits

variable (d : Digits)

theorem readDigits? : Natural.readDigits? d.chars = some (Natural.ofDigits d.chars) :=
  if_pos ⟨d.nonempty, List.all_eq_true.2 d.digits⟩

theorem integerRead?_withSign (negative : Bool) :
    Integer.read? (Binary64.withSign negative d.chars) =
      some (if negative then -(Natural.ofDigits d.chars : Int) else Natural.ofDigits d.chars) := by
  cases negative with
  | true =>
    simp only [Binary64.withSign, if_true, Integer.read?, d.readDigits?]
    rfl
  | false =>
    obtain ⟨c, cs, hcs, hc⟩ := d.start
    have hread := d.readDigits?
    simp only [Binary64.withSign, Bool.false_eq_true, if_false]
    rw [hcs] at hread ⊢
    rw [integerRead?_digits hc, hread]
    rfl

end Digits

theorem readExponent?_chars (exponent : Option Exponent) :
    Binary64.readExponent? (exponentChars exponent) =
      some ((exponent.map Exponent.value).getD 0) := by
  cases exponent with
  | none => rfl
  | some e =>
    rw [exponentChars, Exponent.chars, Binary64.readExponent?, if_pos e.mark_cases,
      Option.map_some, Option.getD_some, Exponent.value]
    cases hsign : e.sign with
    | none => exact e.digits.integerRead?_withSign false
    | minus => exact e.digits.integerRead?_withSign true
    | plus =>
      simp only [ExponentSign.chars, List.singleton_append, Integer.read?, e.digits.readDigits?]
      rfl

section Characters

open Expression (isNumberChar)

theorem isNumberChar_digits (d : Digits) : ∀ c ∈ d.chars, isNumberChar c = true := fun c hc =>
  (Expression.isNumberChar_of_isDigit (d.digits c hc)).2

theorem isNumberChar_fraction (fraction : Option Digits) :
    ∀ c ∈ fractionChars fraction, isNumberChar c = true := by
  cases fraction with
  | none => exact fun c hc => nomatch hc
  | some d => exact List.forall_mem_cons.2 ⟨rfl, isNumberChar_digits d⟩

theorem isNumberChar_exponent (exponent : Option Exponent) :
    ∀ c ∈ exponentChars exponent, isNumberChar c = true := by
  cases exponent with
  | none => exact fun c hc => nomatch hc
  | some e =>
    have hmark : isNumberChar e.mark = true := by
      rcases e.mark_cases with hmark | hmark <;> rw [hmark] <;> rfl
    have hsign : ∀ c ∈ e.sign.chars, isNumberChar c = true := by
      cases e.sign <;> exact List.all_eq_true.1 rfl
    exact List.forall_mem_cons.2
      ⟨hmark, List.forall_mem_append.2 ⟨hsign, isNumberChar_digits e.digits⟩⟩

end Characters

namespace NumberLiteral

variable (n : NumberLiteral)

theorem decimal?_chars : Binary64.decimal? n.chars = some (n.negative, n.decimal) := by
  have hexponent := readExponent?_chars n.exponent
  have hstop : Stops (fun c => c.isDigit || c == '.') (exponentChars n.exponent) := by
    have h := Reader.stops_exponent n.exponent (Text.stops_nil _)
    rwa [List.append_nil] at h
  rw [chars, body, decimal]
  cases n.fraction with
  | none =>
    have h := Binary64.decimal?_whole n.negative n.whole.chars n.whole.nonempty n.whole.digits
      hstop hexponent
    simpa [fractionChars] using h
  | some d =>
    exact Binary64.decimal?_point n.negative n.whole.chars d.chars n.whole.nonempty n.whole.digits
      d.digits (fun c hc => (Bool.or_eq_false_iff.1 (hstop c hc)).1) hexponent

theorem nearest_eq :
    n.nearest = Binary64.ofDecimal n.negative n.decimal.digits n.decimal.exponent :=
  (Binary64.ofDecimal_eq_ofRat ..).symm

/-- Read as a number of binary64 the literal comes to the nearest one. -/
theorem read?_chars : Binary64.read? n.chars = some n.nearest := by
  rw [Binary64.read?, Binary64.readBy?_eq, n.decimal?_chars, Option.map_some, n.nearest_eq]

theorem nearest_cases : (∃ x, n.nearest = .finite x) ∨ n.nearest = .infinite n.negative :=
  Binary64.ofRat_cases _ _

theorem chars_of_isInteger {n : NumberLiteral} (h : n.IsInteger) :
    n.chars = Binary64.withSign n.negative n.whole.chars := by
  rw [chars, body, h.1, h.2]
  exact congrArg _ (List.append_nil _)

theorem integerRead?_chars {n : NumberLiteral} (h : n.IsInteger) :
    Integer.read? n.chars = some n.integer := by
  rw [chars_of_isInteger h]
  exact n.whole.integerRead?_withSign n.negative

theorem naturalRead?_chars {n : NumberLiteral} (h : n.IsInteger) :
    Natural.read? n.chars =
      if n.negative then none else some (Natural.ofDigits n.whole.chars) := by
  rw [chars_of_isInteger h]
  cases n.negative with
  | true =>
    have hsign : ('-' :: n.whole.chars).all Char.isDigit = false := rfl
    change Natural.readDigits? ('-' :: n.whole.chars) = none
    refine if_neg fun hdigits => ?_
    rw [hsign] at hdigits
    exact Bool.false_ne_true hdigits.2
  | false =>
    obtain ⟨c, cs, hcs, hc⟩ := n.whole.start
    have hread := n.whole.readDigits?
    simp only [Binary64.withSign, Bool.false_eq_true, if_false]
    rw [hcs] at hread ⊢
    rw [naturalRead?_digits hc, hread]

theorem int64Read?_chars {n : NumberLiteral} (h : n.IsInteger) :
    Int64.read? n.chars =
      if -2 ^ 63 ≤ n.integer ∧ n.integer < 2 ^ 63 then some (Int64.ofInt n.integer) else none := by
  rw [Int64.read?, integerRead?_chars h, Option.bind_some]
  refine if_congr ?_ rfl rfl
  unfold Integer.least64 Integer.greatest64
  omega

theorem uint64Read?_chars {n : NumberLiteral} (h : n.IsInteger) :
    UInt64.read? n.chars =
      if n.negative = false ∧ n.integer < 2 ^ 64 then some (UInt64.ofNat n.integer.toNat)
      else none := by
  rw [UInt64.read?, naturalRead?_chars h, integer]
  cases n.negative with
  | true => rfl
  | false =>
    simp only [Bool.false_eq_true, if_false, Option.bind_some, true_and, Int.toNat_natCast]
    refine if_congr ?_ rfl rfl
    unfold Natural.greatest64
    omega

theorem integer_nonpos {n : NumberLiteral} (h : n.negative = true) : n.integer ≤ 0 := by
  rw [integer, if_pos h]
  omega

theorem integer_nonneg {n : NumberLiteral} (h : n.negative = false) : 0 ≤ n.integer := by
  rw [integer, h]
  exact Int.natCast_nonneg _

theorem not_mark_of_isDigit {c : Char} (h : c.isDigit = true) :
    ¬ (c == '.' || c == 'e' || c == 'E') = true := by
  simp only [Bool.or_eq_true, beq_iff_eq]
  rintro ((rfl | rfl) | rfl) <;> exact absurd h (by decide)

/-- A character by which a number is told from an integer stands in every other literal. -/
theorem any_mark : (n.chars.any fun c => c == '.' || c == 'e' || c == 'E') =
    decide (¬ n.IsInteger) := by
  by_cases hinteger : n.IsInteger
  · rw [decide_eq_false (not_not_intro hinteger), chars_of_isInteger hinteger, List.any_eq_false]
    intro c hc
    rcases Binary64.mem_withSign hc with rfl | hc
    · decide
    · exact not_mark_of_isDigit (n.whole.digits c hc)
  · rw [decide_eq_true hinteger, List.any_eq_true]
    have hbody : ∃ c ∈ fractionChars n.fraction ++ exponentChars n.exponent,
        (c == '.' || c == 'e' || c == 'E') = true := by
      cases hfraction : n.fraction with
      | some d => exact ⟨'.', List.mem_append_left _ (List.mem_cons_self ..), rfl⟩
      | none =>
        cases hexponent : n.exponent with
        | none => exact absurd ⟨hfraction, hexponent⟩ hinteger
        | some e =>
          refine ⟨e.mark, List.mem_append_right _ (List.mem_cons_self ..), ?_⟩
          rcases e.mark_cases with hmark | hmark <;> rw [hmark] <;> rfl
    obtain ⟨c, hc, hmark⟩ := hbody
    exact ⟨c, Binary64.mem_withSign_of_mem (List.mem_append_right _ hc), hmark⟩

/-- What an expression takes a literal for. -/
theorem numberValue?_chars : Expression.numberValue? n.chars =
    if n.IsInteger then (Integer64.ofInt? n.integer).map Integer64.scalar
    else some (.float n.nearest) := by
  rw [Expression.numberValue?, any_mark]
  by_cases hinteger : n.IsInteger
  · rw [if_neg (by simpa using hinteger), if_pos hinteger, int64Read?_chars hinteger,
      uint64Read?_chars hinteger]
    unfold Integer64.ofInt?
    by_cases hsmall : -2 ^ 63 ≤ n.integer ∧ n.integer < 2 ^ 63
    · have hrange : -2 ^ 63 ≤ n.integer ∧ n.integer < 2 ^ 64 := by omega
      rw [if_pos hsmall, dif_pos hrange, Option.map_some, Integer64.scalar, Integer64.toInt64?,
        if_pos hsmall.2]
    · rw [if_neg hsmall]
      cases hnegative : n.negative with
      | true =>
        have hnonpos := integer_nonpos hnegative
        rw [if_neg (by simp), dif_neg (by omega)]
        rfl
      | false =>
        have hnonneg := integer_nonneg hnegative
        by_cases hbelow : n.integer < 2 ^ 64
        · have hrange : -2 ^ 63 ≤ n.integer ∧ n.integer < 2 ^ 64 := by omega
          have hlarge : ¬ n.integer < 2 ^ 63 := by omega
          rw [if_pos ⟨rfl, hbelow⟩, dif_pos hrange, Option.map_some, Option.map_some,
            Integer64.scalar, Integer64.toInt64?, if_neg hlarge]
        · rw [if_neg fun h => hbelow h.2, dif_neg (by omega)]
          rfl
  · rw [if_pos (by simpa using hinteger), if_neg hinteger, n.read?_chars, Option.map_some]

/-- A literal consists of characters of numbers and starts with one that a number can start with. -/
theorem chars_spec : (∃ c cs, n.chars = c :: cs ∧ Expression.startsNumber c = true) ∧
    ∀ c ∈ n.chars, Expression.isNumberChar c = true := by
  constructor
  · obtain ⟨c, cs, hcs, hc⟩ := Reader.body_start n
    rw [chars, hcs]
    cases n.negative with
    | true => exact ⟨'-', c :: cs, rfl, rfl⟩
    | false => exact ⟨c, cs, rfl, (Expression.isNumberChar_of_isDigit hc).1⟩
  · intro c hc
    rcases Binary64.mem_withSign hc with rfl | hc
    · rfl
    rw [body, List.mem_append, List.mem_append] at hc
    rcases hc with hc | hc | hc
    · exact isNumberChar_digits n.whole c hc
    · exact isNumberChar_fraction n.fraction c hc
    · exact isNumberChar_exponent n.exponent c hc

end NumberLiteral

end Json

namespace Expression

open Json (NumberLiteral)

/-- An equality of a field and a number. -/
def equalityChars (field : String) (n : NumberLiteral) : List Char :=
  field.toList ++ ' ' :: '=' :: ' ' :: n.chars

theorem comparison_equality {field : String} (hne : field.toList ≠ []) (h : InGrammar field)
    (n : NumberLiteral) :
    comparison (equalityChars field n) =
      match numberValue? n.chars with
      | some s => .ok (.comparison field (.comparison .eq) (.scalar s), [])
      | none => .error [] := by
  have hstop : Stops isPathChar (' ' :: '=' :: ' ' :: n.chars) := Text.stops_cons.2 (by decide)
  obtain ⟨hfirst, hall⟩ := n.chars_spec
  have hvalue := value_taken hfirst hall boundary_nil
  rw [List.append_nil] at hvalue
  have hskip : skipBlank (' ' :: n.chars) = n.chars := by
    obtain ⟨c, cs, hcs, -⟩ := hfirst
    have hc := isBlank_of_isNumberChar (hall c (hcs ▸ List.mem_cons_self ..))
    rw [skipBlank_space, hcs]
    exact skipBlank_of_stops (Text.stops_cons.2 (isBlank_of_expression hc))
  have hoperator : operator (skipBlank (' ' :: '=' :: ' ' :: n.chars)) =
      .ok (.comparison .eq, ' ' :: n.chars) := rfl
  rw [equalityChars, comparison, path_text hne h hstop]
  simp only [bind, Except.bind, hoperator, operand, Operator.isNullness, Operator.isMembership,
    Bool.false_eq_true, if_false, hskip, hvalue]
  cases numberValue? n.chars <;> rfl

theorem parse_equality {field : String} (hne : field.toList ≠ []) (h : InGrammar field)
    (n : NumberLiteral) :
    Predicate.parse (field ++ " = " ++ n.text) =
      match numberValue? n.chars with
      | some s => Predicate.make field (.comparison .eq) (.scalar s)
      | none => .error (.stopped (byteLength (equalityChars field n))) := by
  have hchars : (field ++ " = " ++ n.text).toList = equalityChars field n := by
    simp [equalityChars, NumberLiteral.text]
  obtain ⟨c, cs, hcs⟩ := List.exists_cons_of_ne_nil hne
  have hc : isPathChar c = true := h.1 c (hcs ▸ List.mem_cons_self ..)
  have hstart : ∃ more, equalityChars field n = c :: more := ⟨_, by rw [equalityChars, hcs]; rfl⟩
  have htrim : Text.trimEnd (Text.trimStart (equalityChars field n)) = equalityChars field n := by
    have hdark : EndsDark (equalityChars field n) :=
      endsDark_append _ (endsDark_append [' ', '=', ' '] (endsDark_number n.chars_spec.1
        n.chars_spec.2))
    obtain ⟨more, hmore⟩ := hstart
    rw [hmore] at hdark ⊢
    rw [trimStart_of_start (isBlank_of_isPathChar hc), trimEnd_of_endsDark hdark]
  have hterm (fuel : Nat) : term (fuel + 1) (equalityChars field n) =
      comparison (equalityChars field n) := by
    obtain ⟨more, hmore⟩ := hstart
    rw [hmore]
    exact term_comparison hc more fuel
  rw [Predicate.parse, parse, hchars, htrim]
  simp only [sequence, hterm, comparison_equality hne h, bind, Except.bind]
  cases numberValue? n.chars with
  | some s => rfl
  | none => rfl

end Expression

end Sieve
