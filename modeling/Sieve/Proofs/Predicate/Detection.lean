import Mathlib
import Sieve.Predicate.Input
import Sieve.Proofs.Json.Documents
import Sieve.Proofs.Predicate.Recognition

/-!
# Sieve.Proofs.Predicate.Detection

A text that is given without a word about its format is read as JSON if it begins with a brace. That
decides rightly, since every JSON text of a predicate begins with a brace
(`startsWithBrace_of_json`) and no expression does (`not_startsWithBrace_of_text`), blanks around
either one aside: `readInput_auto_iff`.
-/

namespace Sieve

namespace Text

theorem trimEnd_front (cs : List Char) : trimEnd cs <+: cs := by
  rw [← List.reverse_suffix, trimEnd, List.reverse_reverse]
  exact List.dropWhile_suffix isBlank

theorem stops_of_prefix {p : Char → Bool} {as bs : List Char} (h : as <+: bs) (hb : Stops p bs) :
    Stops p as := by
  obtain ⟨rest, rfl⟩ := h
  cases as with
  | nil => exact stops_nil p
  | cons c as => exact stops_cons.2 (stops_cons.1 hb)

/-- What is left of a text does not begin with a blank. -/
theorem stops_trim (s : String) : Stops isBlank (trim s).toList := by
  rw [trim, String.toList_ofList]
  exact stops_of_prefix (trimEnd_front _) (stops_dropWhile isBlank s.toList)

theorem trim_trim (s : String) : trim (trim s) = trim s := by
  have hstart : trimStart (trim s).toList = (trim s).toList := by
    rw [trimStart]
    simpa using dropWhile_append_of_stops (stops_trim s) []
  have hend : trimEnd (trim s).toList = (trim s).toList := by
    rw [trim, String.toList_ofList, trimEnd, trimEnd, List.reverse_reverse,
      List.dropWhile_idempotent]
  rw [trim, hstart, hend, String.ofList_toList]

end Text

namespace Json

open Reader

theorem Numeral.value?_ne_object (n : Numeral) (members : List (String × Json)) :
    n.value? ≠ some (.object members) := by
  intro h
  unfold value? at h
  split at h
  · split at h
    · obtain ⟨x, -, hx⟩ := Option.map_eq_some_iff.1 h
      cases hx
    · cases h
  · obtain ⟨x, -, hx⟩ := Option.map_eq_some_iff.1 h
    cases hx

section Objects

variable {cs rest : List Char} {members : List (String × Json)}

theorem number?_ne_object : number? cs ≠ some (.object members, rest) := by
  intro h
  unfold number? at h
  simp only [Option.bind_eq_bind, Option.bind_eq_some_iff] at h
  obtain ⟨whole, -, fraction, -, exponent, -, j, hj, h⟩ := h
  cases h
  exact Numeral.value?_ne_object _ _ hj

theorem plain?_ne_object : plain? cs ≠ some (.object members, rest) := by
  intro h
  unfold plain? at h
  split at h
  · cases h
  · cases h
  · cases h
  · exact number?_ne_object h

/-- What is read as an object begins with a brace. -/
theorem value?_object {fuel depth : Nat} (h : value? fuel depth cs = some (.object members, rest)) :
    ∃ after, skipBlank cs = '{' :: after := by
  cases fuel with
  | zero => cases h
  | succ fuel =>
    rw [value?] at h
    split at h
    · obtain ⟨found, -, h⟩ := Option.bind_eq_some_iff.1 h
      cases h
    · split at h
      · cases h
      · split at h
        · cases h
        · obtain ⟨found, -, h⟩ := Option.bind_eq_some_iff.1 h
          cases h
    · exact ⟨_, ‹_›⟩
    · exact absurd h plain?_ne_object

end Objects

/-- A blank of JSON is one of Unicode. -/
theorem isBlank_of_reader {c : Char} (h : Reader.isBlank c = true) : Text.isBlank c = true := by
  simp only [Reader.isBlank, Bool.or_eq_true, beq_iff_eq] at h
  rcases h with ((rfl | rfl) | rfl) | rfl <;> decide

theorem skipBlank_of_stops {cs : List Char} (h : Text.Stops Text.isBlank cs) :
    skipBlank cs = cs := by
  cases cs with
  | nil => rfl
  | cons c cs =>
    refine skipBlank_of_start (Bool.eq_false_iff.2 fun hc => ?_)
    have hblank := isBlank_of_reader hc
    rw [Text.stops_cons.1 h] at hblank
    cases hblank

/-- The text of an object begins with a brace, unless it begins with a blank. -/
theorem read?_object {s : String} {members : List (String × Json)}
    (h : read? s = some (.object members)) (hs : Text.Stops Text.isBlank s.toList) :
    ∃ after, s.toList = '{' :: after := by
  rw [read?_eq] at h
  obtain ⟨⟨j, rest⟩, hvalue, h⟩ := Option.bind_eq_some_iff.1 h
  dsimp only at h
  split at h
  · cases h
    rw [← skipBlank_of_stops hs]
    exact value?_object hvalue
  · cases h

end Json

namespace Predicate

variable {s : String} {p : Predicate}

/-- Only the document of an object is a predicate. -/
theorem object_of_ofJson {j : Json} (h : ofJson j = .ok p) : ∃ members, j = .object members := by
  cases j with
  | object members => exact ⟨members, rfl⟩
  | _ => simp [ofJson] at h

theorem startsWithBrace_of_json (h : readJson (Text.trim s) = .ok p) :
    InputFormat.takesJson .auto (Text.trim s) = true := by
  unfold readJson at h
  split at h
  · next j hread =>
    obtain ⟨members, rfl⟩ := object_of_ofJson h
    obtain ⟨after, hchars⟩ := Json.read?_object hread (Text.stops_trim s)
    rw [InputFormat.takesJson, hchars]
    rfl
  · cases h

end Predicate

namespace Grammar

open Expression (isPathChar)

variable {p : Predicate} {cs rest : List Char}

/-- A term begins with a parenthesis, a star or a path, blanks in front of it aside. -/
theorem TermText.start (h : TermText p cs rest) :
    ∃ c after, Blanks cs (c :: after) ∧ (c = '(' ∨ c = '*' ∨ isPathChar c = true) := by
  cases h with
  | group hopen _ _ _ => exact ⟨_, _, hopen, .inl rfl⟩
  | all hstar => exact ⟨_, _, hstar, .inr (.inl rfl)⟩
  | comparison hblanks htext _ =>
    obtain ⟨c, more, rfl, hc⟩ := htext.start
    exact ⟨c, more, hblanks, .inr (.inr hc)⟩

theorem SequenceText.start (h : SequenceText p cs rest) :
    ∃ c after, Blanks cs (c :: after) ∧ (c = '(' ∨ c = '*' ∨ isPathChar c = true) := by
  cases h with
  | single h => exact h.start
  | several h _ => exact h.start

theorem SequenceText.head_ne_brace (h : SequenceText p cs rest) : cs.head? ≠ some '{' := by
  obtain ⟨c, after, hblanks, hc⟩ := h.start
  cases hblanks with
  | none =>
    intro hbrace
    rw [List.head?_cons, Option.some.injEq] at hbrace
    subst hbrace
    exact absurd hc (by decide)
  | more hblank _ =>
    intro hbrace
    rw [List.head?_cons, Option.some.injEq] at hbrace
    subst hbrace
    exact absurd hblank (by decide)

end Grammar

namespace Predicate

variable {s : String} {p : Predicate}

theorem not_startsWithBrace_of_text (h : parse (Text.trim s) = .ok p) :
    InputFormat.takesJson .auto (Text.trim s) = false := by
  have hhead := (Grammar.derives_of_parse h).head_ne_brace
  rw [Text.trim_trim] at hhead
  simpa [InputFormat.takesJson] using hhead

theorem mapError_eq_ok {ε ε' α : Type} {x : Except ε α} {f : ε → ε'} {a : α} :
    x.mapError f = .ok a ↔ x = .ok a := by
  cases x <;> simp [Except.mapError]

theorem readInput_json_iff : readInput s .json = .ok p ↔ readJson (Text.trim s) = .ok p := by
  have htakes : InputFormat.takesJson .json (Text.trim s) = true := rfl
  rw [readInput, if_pos htakes, mapError_eq_ok]

theorem readInput_text_iff : readInput s .text = .ok p ↔ parse (Text.trim s) = .ok p := by
  have htakes : InputFormat.takesJson .text (Text.trim s) = false := rfl
  rw [readInput, htakes, if_neg Bool.false_ne_true, mapError_eq_ok]

theorem readInput_auto_eq : readInput s .auto =
    readInput s (if InputFormat.takesJson .auto (Text.trim s) then .json else .text) := by
  rw [readInput]
  split <;> rfl

/-- Without a word about the format, a text is read as what one of the two formats reads it as; no
text is read in both of them; and either format reads what is left without the blanks around it. -/
theorem readInput_auto_iff (s : String) :
    (∀ p, readInput s .auto = .ok p ↔ readInput s .json = .ok p ∨ readInput s .text = .ok p) ∧
      (∀ p q, ¬ (readInput s .json = .ok p ∧ readInput s .text = .ok q)) ∧
      ∀ p, (readInput s .json = .ok p ↔ readJson (Text.trim s) = .ok p) ∧
        (readInput s .text = .ok p ↔ parse (Text.trim s) = .ok p) := by
  refine ⟨fun p => ?_, fun p q ⟨hjson, htext⟩ => ?_,
    fun p => ⟨readInput_json_iff, readInput_text_iff⟩⟩
  · rw [readInput_auto_eq]
    constructor
    · intro h
      split at h
      · exact .inl h
      · exact .inr h
    · rintro (h | h)
      · rwa [if_pos (startsWithBrace_of_json (readInput_json_iff.1 h))]
      · rwa [not_startsWithBrace_of_text (readInput_text_iff.1 h), if_neg Bool.false_ne_true]
  · have hbrace := startsWithBrace_of_json (readInput_json_iff.1 hjson)
    rw [not_startsWithBrace_of_text (readInput_text_iff.1 htext)] at hbrace
    cases hbrace

/-- Either format of one predicate is detected, with blanks in front of it or behind it. -/
theorem readInput_auto_iff_tier :
    let document := "\t\x7b\"field\": \"tier\", \"operator\": \">=\", \"value\": 5\x7d"
    (∃ p, readInput document .auto = .ok p ∧ p.text = "tier >= 5") ∧
      ∃ p, readInput "tier >= 5\n" .auto = .ok p ∧ p.text = "tier >= 5" := by
  intro document
  have hdocument : (readInput document .json).toOption.map text = some "tier >= 5" := by
    decide +kernel
  have hexpression : (readInput "tier >= 5\n" .text).toOption.map text = some "tier >= 5" := by
    decide +kernel
  obtain ⟨p, hp, hptext⟩ := Expression.ok_of_map hdocument
  obtain ⟨q, hq, hqtext⟩ := Expression.ok_of_map hexpression
  exact ⟨⟨p, ((readInput_auto_iff document).1 p).2 (.inl hp), hptext⟩,
    q, ((readInput_auto_iff _).1 q).2 (.inr hq), hqtext⟩

end Predicate
end Sieve
