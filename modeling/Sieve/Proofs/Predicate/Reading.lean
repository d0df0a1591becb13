import Mathlib
import Sieve.Predicate.Expression
import Sieve.Proofs.Text.Run

/-!
# Sieve.Proofs.Predicate.Reading

The pieces of written predicates read back one by one. Each piece is followed by the end of the
text, a blank, a comma or a closing parenthesis, none of which goes on with a word, a number or a
path; so the reader stops where the piece ends. Here are paths (`path_text`) and operators
(`operator_keyword`).
-/

namespace Sieve

open Text

namespace Expression

section Bind

variable {ε α β : Type} {x : Except ε α} {f : α → Except ε β} {r : β}

theorem ok_of_bind (h : x.bind f = .ok r) : ∃ a, x = .ok a ∧ f a = .ok r := by
  cases x with
  | error e => cases h
  | ok a => exact ⟨a, rfl, h⟩

theorem ok_of_map {g : α → β} (h : x.toOption.map g = some r) : ∃ a, x = .ok a ∧ g a = r := by
  cases x with
  | error e => cases h
  | ok a => exact ⟨a, rfl, Option.some.inj h⟩

end Bind

section Characters

variable {c : Char}

/-- Characters between the blanks of ASCII and those beyond it are no blanks. -/
theorem isBlank_of_visible (h : 33 ≤ c.toNat ∧ c.toNat ≤ 126) : Text.isBlank c = false := by
  simp only [Text.isBlank, Bool.or_eq_false_iff, Bool.and_eq_false_iff, decide_eq_false_iff_not,
    beq_eq_false_iff_ne]
  omega

theorem isBlank_of_isPathChar (h : isPathChar c = true) : Text.isBlank c = false := by
  refine isBlank_of_visible ?_
  simp [isPathChar, Char.isAlphanum, Char.isAlpha, Char.isUpper, Char.isLower, Char.isDigit,
    UInt32.le_iff_toNat_le, or_assoc] at h
  rcases h with h | h | h | rfl | rfl
  · omega
  · omega
  · omega
  · decide
  · decide

theorem isBlank_of_isNumberChar (h : isNumberChar c = true) : Text.isBlank c = false := by
  refine isBlank_of_visible ?_
  simp [isNumberChar, startsNumber, Char.isDigit, UInt32.le_iff_toNat_le, or_assoc] at h
  rcases h with h | rfl | rfl | rfl | rfl | rfl
  · omega
  all_goals decide

theorem isBlank_of_expression (h : Text.isBlank c = false) : isBlank c = false := by
  cases hb : isBlank c with
  | false => rfl
  | true =>
    simp only [isBlank, Bool.or_eq_true, beq_iff_eq] at hb
    rcases hb with ((rfl | rfl) | rfl) | rfl <;> exact absurd h (by decide)

end Characters

/-- What follows a piece of a written predicate. -/
def Boundary (rest : List Char) : Prop := ∀ c ∈ rest.head?, c = ' ' ∨ c = ')' ∨ c = ','

theorem boundary_nil : Boundary [] := fun _ h => by simp at h

theorem boundary_cons {c : Char} {rest : List Char} :
    Boundary (c :: rest) ↔ c = ' ' ∨ c = ')' ∨ c = ',' := by
  simp [Boundary]

section Boundary

variable {rest : List Char}

theorem Boundary.stops {p : Char → Bool} (h : Boundary rest)
    (hp : p ' ' = false ∧ p ')' = false ∧ p ',' = false) : Stops p rest := by
  intro c hc
  rcases h c hc with rfl | rfl | rfl
  · exact hp.1
  · exact hp.2.1
  · exact hp.2.2

theorem skipBlank_of_stops {cs : List Char} (h : Stops isBlank cs) : skipBlank cs = cs := by
  cases cs with
  | nil => rfl
  | cons c cs => rw [skipBlank, List.dropWhile_cons_of_neg (by rw [stops_cons.1 h]; decide)]

theorem skipBlank_space (cs : List Char) : skipBlank (' ' :: cs) = skipBlank cs := rfl

theorem blanks_space {cs : List Char} (h : Stops isBlank cs) :
    blanks (' ' :: cs) = .ok ((), cs) := by
  have hblank : isBlank ' ' = true := rfl
  simp only [blanks, hblank, if_true, skipBlank_of_stops h]

theorem run_append {p : Char → Bool} {taken : List Char} (hne : taken ≠ [])
    (ht : ∀ c ∈ taken, p c = true) (hr : Stops p rest) :
    run p (taken ++ rest) = .ok (taken, rest) := by
  obtain ⟨c, cs, rfl⟩ := List.exists_cons_of_ne_nil hne
  simp only [run, takeWhile_run ht hr, dropWhile_run ht hr]

theorem word_append {w : List Char} (hne : w ≠ []) (hw : w.all isWordChar = true)
    (hr : Stops isWordChar rest) :
    word (w ++ rest) = .ok (String.ofList (w.map Char.toUpper), rest) := by
  rw [word, run_append hne (fun c hc => List.all_eq_true.1 hw c hc) hr]
  rfl

theorem isBlank_of_isWordChar {c : Char} (h : isWordChar c = true) : isBlank c = false := by
  cases hb : isBlank c with
  | false => rfl
  | true =>
    simp only [isBlank, Bool.or_eq_true, beq_iff_eq] at hb
    rcases hb with ((rfl | rfl) | rfl) | rfl <;> exact absurd h (by decide)

theorem nextWord_append {w : List Char} (hne : w ≠ []) (hw : w.all isWordChar = true)
    (hr : Stops isWordChar rest) :
    nextWord (' ' :: (w ++ rest)) = .ok (String.ofList (w.map Char.toUpper), rest) := by
  have hstart : Stops isBlank (w ++ rest) := by
    obtain ⟨c, cs, rfl⟩ := List.exists_cons_of_ne_nil hne
    exact stops_cons.2 (isBlank_of_isWordChar (List.all_eq_true.1 hw c (List.mem_cons_self ..)))
  rw [nextWord, blanks_space hstart]
  exact word_append hne hw hr

end Boundary

/-- A path that expressions can hold. -/
def InGrammar (field : String) : Prop :=
  (∀ c ∈ field.toList, isPathChar c = true) ∧ ∀ c ∈ field.toList.head?, c.isDigit = false

instance (field : String) : Decidable (InGrammar field) :=
  decidable_of_iff
    (field.toList.all isPathChar = true ∧ field.toList.head?.all (fun c => !c.isDigit) = true)
    (and_congr List.all_eq_true (by cases field.toList.head? <;> simp))

theorem FieldPath.toList_ne_nil (p : FieldPath) : p.text.toList ≠ [] := by
  intro h
  have hmem : "" ∈ pathSegments p.text := by
    rw [pathSegments, h]
    decide
  exact p.named "" hmem rfl

theorem path_text {field : String} {rest : List Char} (hne : field.toList ≠ [])
    (h : InGrammar field) (hr : Stops isPathChar rest) :
    path (field.toList ++ rest) = .ok (field, rest) := by
  obtain ⟨hall, hfirst⟩ := h
  rw [path, run_append hne hall hr]
  obtain ⟨c, cs, hcs⟩ := List.exists_cons_of_ne_nil hne
  rw [hcs] at hfirst
  have hc : c.isDigit = false := hfirst c rfl
  simp only [bind, Except.bind, hcs, hc, Bool.false_eq_true, if_false]
  rw [← hcs, String.ofList_toList]

/-- A word in capital letters. -/
def IsKeyword (w : String) : Prop :=
  w.toList ≠ [] ∧ w.toList.all isWordChar = true ∧ w.toList.map Char.toUpper = w.toList

instance (w : String) : Decidable (IsKeyword w) := inferInstanceAs (Decidable (_ ∧ _))

section Keyword

variable {w : String} {rest : List Char} {op : Operator}

theorem keyword_append (hw : IsKeyword w) (hr : Stops isWordChar rest) :
    word (w.toList ++ rest) = .ok (w, rest) := by
  rw [word_append hw.1 hw.2.1 hr, hw.2.2, String.ofList_toList]

theorem nextKeyword_append (hw : IsKeyword w) (hr : Stops isWordChar rest) :
    nextWord (' ' :: (w.toList ++ rest)) = .ok (w, rest) := by
  rw [nextWord_append hw.1 hw.2.1 hr, hw.2.2, String.ofList_toList]

theorem symbol?_word (hw : IsKeyword w) (tail : List Char) : symbol? (w.toList ++ tail) = none := by
  obtain ⟨hne, hall, -⟩ := hw
  obtain ⟨c, cs, hcs⟩ := List.exists_cons_of_ne_nil hne
  rw [hcs] at hall ⊢
  have hc : isWordChar c = true := List.all_eq_true.1 hall c (List.mem_cons_self ..)
  rw [List.cons_append]
  unfold symbol?
  split <;> first | rfl | (rename_i h; rw [(List.cons.inj h).1] at hc; exact absurd hc (by decide))

theorem operator_words (hw : IsKeyword w) (tail : List Char) :
    operator (w.toList ++ tail) = operatorWords (w.toList ++ tail) := by
  simp only [operator, symbol?_word hw]

/-- An operator of one word. -/
theorem operator_word (hw : IsKeyword w) (his : w ≠ "IS") (hnot : w ≠ "NOT")
    (hop : Operator.ofToken? w.toList = some op) (hr : Stops isWordChar rest) :
    operator (w.toList ++ rest) = .ok (op, rest) := by
  rw [operator_words hw]
  simp only [operatorWords, keyword_append hw hr, bind, Except.bind, his, hnot, if_false, hop]

/-- An operator of the word `NOT` and another. -/
theorem operator_not (hw : IsKeyword w) (hr : Stops isWordChar rest)
    (hop : w = "IN" ∧ op = .membership true ∨ w = "LIKE" ∧ op = .textual .notLike) :
    operator ("NOT".toList ++ ' ' :: (w.toList ++ rest)) = .ok (op, rest) := by
  have hspace : Stops isWordChar (' ' :: (w.toList ++ rest)) := stops_cons.2 (by decide)
  have hnot : IsKeyword "NOT" := by decide
  rw [operator_words hnot]
  simp only [operatorWords, keyword_append hnot hspace, nextKeyword_append hw hr, bind,
    Except.bind]
  rcases hop with ⟨rfl, rfl⟩ | ⟨rfl, rfl⟩ <;> rfl

theorem operator_isNull (hr : Stops isWordChar rest) :
    operator ("IS".toList ++ ' ' :: ("NULL".toList ++ rest)) = .ok (.nullness false, rest) := by
  have hspace : Stops isWordChar (' ' :: ("NULL".toList ++ rest)) := stops_cons.2 (by decide)
  have his : IsKeyword "IS" := by decide
  have hnull : IsKeyword "NULL" := by decide
  rw [operator_words his]
  simp only [operatorWords, keyword_append his hspace, nextKeyword_append hnull hr, bind,
    Except.bind]
  rfl

theorem operator_isNotNull (hr : Stops isWordChar rest) :
    operator ("IS".toList ++ ' ' :: ("NOT".toList ++ ' ' :: ("NULL".toList ++ rest))) =
      .ok (.nullness true, rest) := by
  have hspace : ∀ cs, Stops isWordChar (' ' :: cs) := fun _ => stops_cons.2 (by decide)
  have his : IsKeyword "IS" := by decide
  have hnot : IsKeyword "NOT" := by decide
  have hnull : IsKeyword "NULL" := by decide
  rw [operator_words his]
  simp only [operatorWords, keyword_append his (hspace _), nextKeyword_append hnot (hspace _),
    nextKeyword_append hnull hr, bind, Except.bind]
  rfl

theorem operator_symbol (op : Comparison) (hr : Boundary rest) :
    symbol? ((Operator.comparison op).keyword.toList ++ rest) = some (op, rest) := by
  cases rest with
  | nil => cases op <;> rfl
  | cons c rest => rcases boundary_cons.1 hr with rfl | rfl | rfl <;> cases op <;> rfl

theorem operator_keyword (op : Operator) (hr : Boundary rest) :
    operator (op.keyword.toList ++ rest) = .ok (op, rest) := by
  have hstop : Stops isWordChar rest := hr.stops (by decide)
  have hin : IsKeyword "IN" := by decide
  have hlike : IsKeyword "LIKE" := by decide
  cases op with
  | comparison op => simp only [operator, operator_symbol op hr]
  | membership negated =>
    cases negated with
    | false => exact operator_word hin (by decide) (by decide) (by decide) hstop
    | true => exact operator_not hin hstop (.inl ⟨rfl, rfl⟩)
  | textual test =>
    cases test with
    | like => exact operator_word hlike (by decide) (by decide) (by decide) hstop
    | notLike => exact operator_not hlike hstop (.inr ⟨rfl, rfl⟩)
    | contains =>
      have hw : IsKeyword "CONTAINS" := by decide
      exact operator_word hw (by decide) (by decide) (by decide) hstop
    | startsWith =>
      have hw : IsKeyword "STARTS_WITH" := by decide
      exact operator_word hw (by decide) (by decide) (by decide) hstop
    | endsWith =>
      have hw : IsKeyword "ENDS_WITH" := by decide
      exact operator_word hw (by decide) (by decide) (by decide) hstop
  | nullness negated =>
    cases negated with
    | false => exact operator_isNull hstop
    | true => exact operator_isNotNull hstop

end Keyword

end Expression
end Sieve
