import Sieve.Proofs.Predicate.NumberLiterals
import Sieve.Proofs.Predicate.Wire

/-!
# Sieve.Proofs.Predicate.Formats

One number literal in both formats of predicates, as the operand of an equality in an expression and
in a document. Both formats fail or both come to equal predicates, with two exceptions. A document
keeps the sign of `-0`, which an expression takes for the integer zero; and a document rounds an
integer that 64 bits do not hold, which an expression refuses: `literal_alike`.
-/

namespace Sieve

open Text (Stops)

theorem Value.ofJson?_integer (i : Integer64) :
    Value.ofJson? (.integer i) = some (.scalar i.scalar) := by
  rw [Value.ofJson?, Integer64.scalar]
  cases i.toInt64? <;> rfl

theorem Integer64.isFinite_scalar (i : Integer64) : i.scalar.isFinite = true := by
  unfold scalar
  cases i.toInt64? <;> rfl

theorem Scalar.same_self {s : Scalar} (h : s.isFinite = true) : s.same s = true := by
  cases s with
  | bool b => exact beq_self_eq_true b
  | int n => exact beq_self_eq_true n.toInt
  | uint n => exact beq_self_eq_true (n.toNat : Int)
  | text s => exact beq_self_eq_true s
  | float x =>
    cases x with
    | finite x => simp [same, Binary64.equal, Binary64.compare?, Binary64.place?]
    | infinite negative => cases h
    | nan => cases h

namespace Predicate

open Json (NumberLiteral)

/-- The members of the document of the equality, behind the opening brace. -/
def equalityMembers (field : String) (n : NumberLiteral) : List Char :=
  Json.quoted "field" ++ ':' :: (Json.quoted field ++ ',' ::
    (Json.quoted "operator" ++ ':' :: (Json.quoted "=" ++ ',' ::
      (Json.quoted "value" ++ ':' :: (n.chars ++ ['\x7d'])))))

/-- The document of the equality of a field and a number, as a text. -/
def equalityJson (field : String) (n : NumberLiteral) : String :=
  String.ofList ('\x7b' :: equalityMembers field n)

/-- The document itself, with what the number is decoded to. -/
def equalityDocument (field : String) (j : Json) : Json :=
  .object [("field", .text field), ("operator", .text "="), ("value", j)]

/-- The predicate that a JSON text holds, as a decoder understands the text. -/
def readJsonBy (decode : String → Option Json) (s : String) : Except PredicateError Predicate :=
  match decode s with
  | some j => ofJson j
  | none => .error (.document .unreadable)

theorem readJsonBy_read? : readJsonBy Json.read? = readJson := rfl

/-- The decoder understands the document of an equality, and rounds its number correctly. -/
def Decodes (decode : String → Option Json) (field : String) (n : NumberLiteral) : Prop :=
  decode (equalityJson field n) = n.decoded.map (equalityDocument field)

section Document

variable (field : String) (n : NumberLiteral)

theorem members?_equality {fuel : Nat} (h : field.toList.length + 8 ≤ fuel) (depth : Nat) :
    Json.Reader.members? (fuel + 4) depth (equalityMembers field n) =
      n.numeral.value?.map fun j =>
        ([("field", .text field), ("operator", .text "="), ("value", j)], []) := by
  have hcomma (cs : List Char) : Json.Reader.skipBlank (',' :: cs) = ',' :: cs := rfl
  have hclose : Json.Reader.skipBlank ['\x7d'] = ['\x7d'] := rfl
  have hkeys : "field".toList.length = 5 ∧ "operator".toList.length = 8 ∧
      "value".toList.length = 5 ∧ "=".toList.length = 1 := ⟨rfl, rfl, rfl, rfl⟩
  obtain ⟨hfield, hoperator, hvalue, hequal⟩ := hkeys
  rw [equalityMembers, Json.Reader.members?_step _ (by omega),
    Json.Reader.value?_text _ (by omega)]
  simp only [Option.bind_some, hcomma]
  rw [Json.Reader.members?_step _ (by omega), Json.Reader.value?_text _ (by omega)]
  simp only [Option.bind_some, hcomma]
  rw [Json.Reader.members?_step _ (by omega),
    Json.Reader.value?_literal n (Text.stops_cons.2 (by decide))]
  cases n.numeral.value? with
  | none => rfl
  | some j => simp only [Option.map_some, Option.bind_some, hclose]

theorem read?_equalityJson :
    Json.read? (equalityJson field n) = n.numeral.value?.map (equalityDocument field) := by
  have hlength : field.toList.length + 8 ≤ (equalityMembers field n).length := by
    have hquoted := Json.Reader.length_quoted field
    have hoperator := Json.Reader.length_quoted "operator"
    have hkey : "operator".toList.length = 8 := rfl
    simp only [equalityMembers, List.length_append, List.length_cons]
    omega
  obtain ⟨fuel, hfuel, hle⟩ : ∃ fuel, 2 * ((equalityMembers field n).length + 1) + 2 =
      fuel + 4 + 1 ∧ field.toList.length + 8 ≤ fuel :=
    ⟨2 * (equalityMembers field n).length - 1, by omega, by omega⟩
  have hlimit : Json.depthLimit = 126 + 1 := rfl
  have hmembers := members?_equality field n hle 126
  obtain ⟨cs, hcs⟩ : ∃ cs, equalityMembers field n = '"' :: cs := ⟨_, rfl⟩
  rw [Json.Reader.read?_eq, equalityJson, String.toList_ofList, List.length_cons, hfuel, hlimit]
  rw [hcs] at hmembers ⊢
  rw [Json.Reader.value?_members, hmembers]
  cases n.numeral.value? with
  | none => rfl
  | some j =>
    have hsorted : Entries.Sorted
        [("field", Json.text field), ("operator", .text "="), ("value", j)] := by
      have hkeys : ["field", "operator", "value"].Pairwise (· < ·) := by decide
      exact Entries.sorted_iff.2 hkeys
    simp only [Option.map_some, Option.bind_some, Json.ofMembers,
      Entries.ofPairs_of_sorted hsorted]
    rfl

/-- The reader of the library decodes the document wherever it comes to the nearest number. -/
theorem read?_decodes {n : NumberLiteral}
    (h : ¬ n.Fits → n.numeral.approximate? = n.nearest.finite?) : Decodes Json.read? field n := by
  rw [Decodes, read?_equalityJson, NumberLiteral.value?_eq_decoded h]

theorem ofJson_equalityDocument (j : Json) : ofJson (equalityDocument field j) =
    match Value.ofJson? j with
    | some v => make field (.comparison .eq) v
    | none => .error (.document .objectValue) := by
  let members : Entries Json := [("field", .text field), ("operator", .text "="), ("value", j)]
  have hfield : requiredText "field" members = .ok field := rfl
  have hname : requiredText "operator" members = .ok "=" := rfl
  have hoperator : Operator.read? "=" = some (.comparison .eq) := by decide
  have hvalue : Entries.get? "value" members = some j := rfl
  rw [equalityDocument, ofJson_leafMembers rfl rfl, ofLeafMembers]
  cases hread : Value.ofJson? j <;>
    simp only [members, hfield, hname, hoperator, hvalue, hread, bind, Except.bind]

end Document

/-! ## Both formats -/

/-- Both fail, or both come to predicates that are equal. -/
inductive Alike : Except PredicateError Predicate → Except PredicateError Predicate → Prop where
  | equal {p q : Predicate} : p.same q = true → Alike (.ok p) (.ok q)
  | failed (e e' : PredicateError) : Alike (.error e) (.error e')

theorem alike_ok_iff {p q : Predicate} : Alike (.ok p) (.ok q) ↔ p.same q = true :=
  ⟨fun | .equal h => h, .equal⟩

section Make

variable {field : String} {s t : Scalar}

theorem make_infinite (field : String) (negative : Bool) :
    ∃ e, make field (.comparison .eq) (.scalar (.float (.infinite negative))) = .error e := by
  unfold make
  cases FieldPath.ofString? field with
  | none => exact ⟨_, rfl⟩
  | some path => exact ⟨_, rfl⟩

theorem make_finite (field : String) (hs : s.isFinite = true) :
    make field (.comparison .eq) (.scalar s) =
      match FieldPath.ofString? field with
      | none => .error (.fieldPath field)
      | some path => .ok (.leaf ⟨path, .comparison .eq ⟨s, hs⟩⟩) := by
  have hmake : Condition.make (.comparison .eq) (.scalar s) = .ok (.comparison .eq ⟨s, hs⟩) :=
    Condition.make_value (.comparison .eq ⟨s, hs⟩)
  cases hpath : FieldPath.ofString? field <;> simp only [make, hpath, hmake]

theorem alike_error_iff {e : PredicateError} (hs : s.isFinite = true) :
    Alike (.error e) (make field (.comparison .eq) (.scalar s)) ↔
      FieldPath.ofString? field = none := by
  rw [make_finite field hs]
  cases FieldPath.ofString? field with
  | none => exact iff_of_true (.failed _ _) rfl
  | some path => exact iff_of_false (fun h => nomatch h) (by simp)

theorem alike_make_iff (hs : s.isFinite = true) (ht : t.isFinite = true) :
    Alike (make field (.comparison .eq) (.scalar s)) (make field (.comparison .eq) (.scalar t)) ↔
      FieldPath.ofString? field = none ∨ s.same t = true := by
  rw [make_finite field hs, make_finite field ht]
  cases FieldPath.ofString? field with
  | none => exact iff_of_true (.failed _ _) (.inl rfl)
  | some path =>
    simp only [alike_ok_iff, same, reduceCtorEq, false_or, beq_self_eq_true, Bool.true_and,
      Condition.operator, decide_true]
    rfl

end Make

/-- The formats part on the literal: it is `-0`, or an integer that 64 bits do not hold, in the
range of binary64. -/
def Parted (n : NumberLiteral) : Prop :=
  n.IsMinusZero ∨ n.IsInteger ∧ ¬ n.Fits ∧ n.nearest.isFinite = true

section Literals

variable {field : String} {n : NumberLiteral}

section Documents

variable {decode : String → Option Json} (hdecode : Decodes decode field n)

include hdecode

theorem readJsonBy_of_minusZero (h : n.IsMinusZero) :
    readJsonBy decode (equalityJson field n) =
      make field (.comparison .eq) (.scalar (.float (.finite (.zero true)))) := by
  rw [readJsonBy, hdecode, NumberLiteral.decoded, if_pos h]
  exact ofJson_equalityDocument field _

theorem readJsonBy_of_fits (h : n.Fits) (hzero : ¬ n.IsMinusZero) :
    readJsonBy decode (equalityJson field n) =
      make field (.comparison .eq) (.scalar (Integer64.mk n.integer h.2.1 h.2.2).scalar) := by
  rw [readJsonBy, hdecode, NumberLiteral.decoded, if_neg hzero, dif_pos h, Option.map_some]
  simp only [ofJson_equalityDocument, Value.ofJson?_integer]

theorem readJsonBy_of_finite {x : Finite} (h : ¬ n.Fits) (hx : n.nearest = .finite x) :
    readJsonBy decode (equalityJson field n) =
      make field (.comparison .eq) (.scalar (.float (.finite x))) := by
  rw [readJsonBy, hdecode, NumberLiteral.decoded, if_neg (mt NumberLiteral.IsMinusZero.fits h),
    dif_neg h, hx]
  exact ofJson_equalityDocument field _

theorem readJsonBy_of_infinite (h : ¬ n.Fits) (hx : n.nearest = .infinite n.negative) :
    readJsonBy decode (equalityJson field n) = .error (.document .unreadable) := by
  rw [readJsonBy, hdecode, NumberLiteral.decoded, if_neg (mt NumberLiteral.IsMinusZero.fits h),
    dif_neg h, hx]
  rfl

end Documents

variable (hne : field ≠ "") (hgrammar : Expression.InGrammar field)

include hne hgrammar

theorem parse_of_fits (h : n.Fits) :
    parse (field ++ " = " ++ n.text) =
      make field (.comparison .eq) (.scalar (Integer64.mk n.integer h.2.1 h.2.2).scalar) := by
  have hchars : field.toList ≠ [] := mt String.toList_eq_nil_iff.1 hne
  have hi : Integer64.ofInt? n.integer = some ⟨n.integer, h.2.1, h.2.2⟩ := dif_pos h.2
  rw [Expression.parse_equality hchars hgrammar, NumberLiteral.numberValue?_chars, if_pos h.1, hi]
  rfl

theorem parse_of_minusZero (h : n.IsMinusZero) :
    parse (field ++ " = " ++ n.text) = make field (.comparison .eq) (.scalar (.int 0)) := by
  have hzero : Integer64.mk n.integer h.fits.2.1 h.fits.2.2 = ⟨0, by decide, by decide⟩ := by
    simp only [h.2.2]
  rw [parse_of_fits hne hgrammar h.fits, hzero]
  rfl

theorem parse_of_wide (hinteger : n.IsInteger) (h : ¬ n.Fits) :
    ∃ e, parse (field ++ " = " ++ n.text) = .error e := by
  have hchars : field.toList ≠ [] := mt String.toList_eq_nil_iff.1 hne
  have hnone : Integer64.ofInt? n.integer = none := dif_neg fun hrange => h ⟨hinteger, hrange⟩
  rw [Expression.parse_equality hchars hgrammar, NumberLiteral.numberValue?_chars,
    if_pos hinteger, hnone]
  exact ⟨_, rfl⟩

theorem parse_of_not_integer (h : ¬ n.IsInteger) :
    parse (field ++ " = " ++ n.text) =
      make field (.comparison .eq) (.scalar (.float n.nearest)) := by
  have hchars : field.toList ≠ [] := mt String.toList_eq_nil_iff.1 hne
  rw [Expression.parse_equality hchars hgrammar, NumberLiteral.numberValue?_chars, if_neg h]

/-- One literal in both formats, for any decoder that understands the document and rounds correctly.
Both formats fail or both come to equal predicates, but for the literals on which they part: `-0` is
the integer zero in an expression and the negative zero of binary64 in a document, and an integer
that 64 bits do not hold is refused in an expression and rounded in a document. -/
theorem literal_alike {decode : String → Option Json} (hdecode : Decodes decode field n) :
    (Alike (parse (field ++ " = " ++ n.text)) (readJsonBy decode (equalityJson field n)) ↔
        FieldPath.ofString? field = none ∨ ¬ Parted n) ∧
      (n.IsMinusZero →
        parse (field ++ " = " ++ n.text) = make field (.comparison .eq) (.scalar (.int 0)) ∧
          readJsonBy decode (equalityJson field n) =
            make field (.comparison .eq) (.scalar (.float (.finite (.zero true))))) ∧
      ∀ x, n.IsInteger → ¬ n.Fits → n.nearest = .finite x →
        (∃ e, parse (field ++ " = " ++ n.text) = .error e) ∧
          readJsonBy decode (equalityJson field n) =
            make field (.comparison .eq) (.scalar (.float (.finite x))) := by
  refine ⟨?_, fun h => ⟨parse_of_minusZero hne hgrammar h, readJsonBy_of_minusZero hdecode h⟩,
    fun x hinteger h hx =>
      ⟨parse_of_wide hne hgrammar hinteger h, readJsonBy_of_finite hdecode h hx⟩⟩
  by_cases hzero : n.IsMinusZero
  · rw [parse_of_minusZero hne hgrammar hzero, readJsonBy_of_minusZero hdecode hzero,
      alike_make_iff rfl rfl]
    exact or_congr_right (iff_of_false Bool.false_ne_true (not_not_intro (.inl hzero)))
  by_cases hfits : n.Fits
  · have hwhole : ¬ Parted n := fun h => h.elim hzero fun h => h.2.1 hfits
    have hfinite := Integer64.isFinite_scalar ⟨n.integer, hfits.2.1, hfits.2.2⟩
    rw [parse_of_fits hne hgrammar hfits, readJsonBy_of_fits hdecode hfits hzero,
      alike_make_iff hfinite hfinite]
    exact or_congr_right (iff_of_true (Scalar.same_self hfinite) hwhole)
  by_cases hinteger : n.IsInteger
  · obtain ⟨e, he⟩ := parse_of_wide hne hgrammar hinteger hfits
    rw [he]
    rcases n.nearest_cases with ⟨x, hx⟩ | hx
    · have hparted : Parted n := .inr ⟨hinteger, hfits, by rw [hx]; rfl⟩
      rw [readJsonBy_of_finite hdecode hfits hx, alike_error_iff rfl]
      exact (or_iff_left (not_not_intro hparted)).symm
    · have hwhole : ¬ Parted n := fun h => h.elim hzero fun h => by
        rw [hx] at h
        cases h.2.2
      rw [readJsonBy_of_infinite hdecode hfits hx]
      exact iff_of_true (.failed _ _) (.inr hwhole)
  · have hwhole : ¬ Parted n := fun h => h.elim hzero fun h => hinteger h.1
    rw [parse_of_not_integer hne hgrammar hinteger]
    rcases n.nearest_cases with ⟨x, hx⟩ | hx
    · rw [readJsonBy_of_finite hdecode hfits hx, hx, alike_make_iff rfl rfl]
      exact or_congr_right (iff_of_true (Scalar.same_self rfl) hwhole)
    · obtain ⟨e, he⟩ := make_infinite field n.negative
      rw [readJsonBy_of_infinite hdecode hfits hx, hx, he]
      exact iff_of_true (.failed _ _) (.inr hwhole)

end Literals

/-- The literal `-12.5e1`. -/
def lowLoad : NumberLiteral where
  negative := true
  whole := ⟨['1', '2'], by decide, List.all_eq_true.1 (by decide)⟩
  fraction := some ⟨['5'], by decide, List.all_eq_true.1 (by decide)⟩
  exponent := some ⟨false, .none, ⟨['1'], by decide, List.all_eq_true.1 (by decide)⟩⟩
  tidy := by decide

theorem literal_alike_load :
    Decodes Json.read? "site.load" lowLoad ∧ Expression.InGrammar "site.load" ∧
      Alike (parse "site.load = -12.5e1") (readJson (equalityJson "site.load" lowLoad)) := by
  have hdecode : Decodes Json.read? "site.load" lowLoad := by
    refine read?_decodes _ fun _ => ?_
    rw [NumberLiteral.nearest_eq]
    decide +kernel
  have hgrammar : Expression.InGrammar "site.load" := by decide
  have hwhole : ¬ Parted lowLoad := fun h => by
    rcases h with h | h
    · exact absurd h.1 (by decide)
    · exact absurd h.1 (by decide)
  have htext : "site.load = -12.5e1" = "site.load" ++ " = " ++ lowLoad.text := by decide
  have halike := (literal_alike (by decide) hgrammar hdecode).1.2 (.inr hwhole)
  rw [← htext, readJsonBy_read?] at halike
  exact ⟨hdecode, hgrammar, halike⟩

/-- The literal `-0`. -/
def minusZero : NumberLiteral where
  negative := true
  whole := ⟨['0'], by decide, List.all_eq_true.1 (by decide)⟩
  fraction := none
  exponent := none
  tidy := by decide

/-- The literal `18446744073709551616`, the least natural number that 64 bits do not hold. -/
def tooWide : NumberLiteral where
  negative := false
  whole := ⟨"18446744073709551616".toList, by decide, List.all_eq_true.1 (by decide)⟩
  fraction := none
  exponent := none
  tidy := by decide

/-- The formats part on `-0` and on a power of two. -/
theorem formats_part :
    ¬ Alike (parse "n = -0")
        (readJson "\x7b\"field\":\"n\",\"operator\":\"=\",\"value\":-0\x7d") ∧
      ¬ Alike (parse "n = 18446744073709551616") (readJson
        "\x7b\"field\":\"n\",\"operator\":\"=\",\"value\":18446744073709551616\x7d") := by
  have hgrammar : Expression.InGrammar "n" := by decide
  have hpath : FieldPath.ofString? "n" ≠ none := by decide +kernel
  constructor
  · have hzero : minusZero.IsMinusZero := by decide
    have hdecode : Decodes Json.read? "n" minusZero :=
      read?_decodes _ fun h => absurd hzero.fits h
    have htext : "n = -0" = "n" ++ " = " ++ minusZero.text := by decide
    have hjson : "\x7b\"field\":\"n\",\"operator\":\"=\",\"value\":-0\x7d" =
        equalityJson "n" minusZero := by decide +kernel
    rw [htext, hjson, ← readJsonBy_read?, parse_of_minusZero (by decide) hgrammar hzero,
      readJsonBy_of_minusZero hdecode hzero, alike_make_iff rfl rfl]
    exact fun h => h.elim hpath Bool.false_ne_true
  · have hwide : ¬ tooWide.Fits := by decide +kernel
    have hnearest : tooWide.numeral.approximate? = tooWide.nearest.finite? := by
      rw [NumberLiteral.nearest_eq]
      decide +kernel
    have hdecode : Decodes Json.read? "n" tooWide := read?_decodes _ fun _ => hnearest
    obtain ⟨x, hx⟩ := tooWide.nearest_cases.resolve_right fun hx => by
      have hsome : tooWide.numeral.approximate?.isSome = true := by decide +kernel
      rw [hnearest, hx] at hsome
      cases hsome
    obtain ⟨e, he⟩ := parse_of_wide (by decide) hgrammar ⟨rfl, rfl⟩ hwide
    have htext : "n = 18446744073709551616" = "n" ++ " = " ++ tooWide.text := by decide
    have hjson :
        "\x7b\"field\":\"n\",\"operator\":\"=\",\"value\":18446744073709551616\x7d" =
          equalityJson "n" tooWide := by decide +kernel
    rw [htext, hjson, ← readJsonBy_read?, he, readJsonBy_of_finite hdecode hwide hx,
      alike_error_iff rfl]
    exact hpath

end Predicate

end Sieve
