import Sieve.Proofs.Predicate.Grammar
import Sieve.Proofs.Predicate.Operands

/-!
# Sieve.Proofs.Predicate.Derivation

The grammar of expressions, stated apart from any reader. Every symbol of the grammar is a relation
between what it means, a text, and what is left of the text behind it:

sequence := term (gap (AND | OR) gap term)*, one conjunction throughout; term := blanks ('(' blanks
sequence blanks ')' | '*' | path blanks operator operand).

The relations leave open how many blanks a place takes; runs, such as paths and words, go on as far
as they can. `comparison_iff` says that the reader of a comparison follows the grammar.
-/

namespace Sieve
namespace Grammar

open Expression (isBlank isPathChar isWordChar startsNumber isNumberChar)
open Text (Stops)

/-- Blanks, none or more. -/
inductive Blanks : List Char → List Char → Prop where
  | none (cs : List Char) : Blanks cs cs
  | more {c : Char} {cs rest : List Char} : isBlank c = true → Blanks cs rest →
      Blanks (c :: cs) rest

/-- Blanks, one or more. -/
inductive Gap : List Char → List Char → Prop where
  | blanks {c : Char} {cs rest : List Char} : isBlank c = true → Blanks cs rest →
      Gap (c :: cs) rest

/-- A longest run of characters of a class. -/
structure Run (p : Char → Bool) (taken cs rest : List Char) : Prop where
  text : cs = taken ++ rest
  nonempty : taken ≠ []
  all : ∀ c ∈ taken, p c = true
  longest : Stops p rest

/-- A word, in any case of ASCII letters, that no letter or low line goes on with. -/
def Word (w : String) (cs rest : List Char) : Prop :=
  ∃ taken, Run isWordChar taken cs rest ∧ taken.map Char.toUpper = w.toList

structure PathText (field : String) (cs rest : List Char) : Prop where
  run : Run isPathChar field.toList cs rest
  first : ∀ c ∈ field.toList.head?, c.isDigit = false

/-- The longest of the symbols of comparisons that the text starts with. -/
structure SymbolText (op : Comparison) (cs rest : List Char) : Prop where
  text : cs = (Operator.comparison op).token.toList ++ rest
  longest : ∀ other, (Operator.comparison other).token.toList <+: cs →
    (Operator.comparison other).token.length ≤ (Operator.comparison op).token.length

/-- The names of operators are single words, but for the negated ones and those for null. -/
inductive OperatorText : Operator → List Char → List Char → Prop where
  | symbol {op : Comparison} {cs rest : List Char} : SymbolText op cs rest →
      OperatorText (.comparison op) cs rest
  | name {op : Operator} {cs rest : List Char} : Word op.token cs rest → OperatorText op cs rest
  | isNull {cs a b rest : List Char} : Word "IS" cs a → Gap a b → Word "NULL" b rest →
      OperatorText (.nullness false) cs rest
  | isNotNull {cs a b c d rest : List Char} : Word "IS" cs a → Gap a b → Word "NOT" b c →
      Gap c d → Word "NULL" d rest → OperatorText (.nullness true) cs rest
  | notIn {cs a b rest : List Char} : Word "NOT" cs a → Gap a b → Word "IN" b rest →
      OperatorText (.membership true) cs rest
  | notLike {cs a b rest : List Char} : Word "NOT" cs a → Gap a b → Word "LIKE" b rest →
      OperatorText (.textual .notLike) cs rest

/-- The characters up to a closing quote, where a backslash takes the next one as it is. -/
inductive QuotedText (quote : Char) : List Char → List Char → List Char → Prop where
  | close {rest : List Char} : QuotedText quote [] (quote :: rest) rest
  | escaped {c : Char} {text cs rest : List Char} : QuotedText quote text cs rest →
      QuotedText quote (c :: text) ('\\' :: c :: cs) rest
  | plain {c : Char} {text cs rest : List Char} : c ≠ quote → c ≠ '\\' →
      QuotedText quote text cs rest → QuotedText quote (c :: text) (c :: cs) rest

/-- A character that makes a number one of binary64. -/
def IsPointOrExponent (c : Char) : Prop := c = '.' ∨ c = 'e' ∨ c = 'E'

/-- What a number means; an integer is signed if it can be. -/
inductive Numeral : List Char → Scalar → Prop where
  | float {cs : List Char} {x : Binary64} : (∃ c ∈ cs, IsPointOrExponent c) →
      Binary64.read? cs = some x → Numeral cs (.float x)
  | int {cs : List Char} {n : Int64} : (∀ c ∈ cs, ¬ IsPointOrExponent c) →
      Int64.read? cs = some n → Numeral cs (.int n)
  | uint {cs : List Char} {n : UInt64} : (∀ c ∈ cs, ¬ IsPointOrExponent c) →
      Int64.read? cs = none → UInt64.read? cs = some n → Numeral cs (.uint n)

inductive ValueText : Value → List Char → List Char → Prop where
  | text {quote : Char} {text cs rest : List Char} : quote = '"' ∨ quote = '\x27' →
      QuotedText quote text cs rest →
      ValueText (.scalar (.text (String.ofList text))) (quote :: cs) rest
  | number {s : Scalar} {taken cs rest : List Char} : Run isNumberChar taken cs rest →
      (∀ c ∈ cs.head?, startsNumber c = true) → Numeral taken s → ValueText (.scalar s) cs rest
  | yes {cs rest : List Char} : Word "TRUE" cs rest → ValueText (.scalar (.bool true)) cs rest
  | no {cs rest : List Char} : Word "FALSE" cs rest → ValueText (.scalar (.bool false)) cs rest
  | null {cs rest : List Char} : Word "NULL" cs rest → ValueText .null cs rest

/-- One value or more, with commas between them. -/
inductive ValuesText : List Value → List Char → List Char → Prop where
  | last {v : Value} {cs rest : List Char} : ValueText v cs rest → ValuesText [v] cs rest
  | more {v : Value} {vs : List Value} {cs a b c rest : List Char} : ValueText v cs a →
      Blanks a (',' :: b) → Blanks b c → ValuesText vs c rest → ValuesText (v :: vs) cs rest

inductive ListText : List Value → List Char → List Char → Prop where
  | empty {cs rest : List Char} : Blanks cs (')' :: rest) → ListText [] ('(' :: cs) rest
  | items {vs : List Value} {cs a b rest : List Char} : Blanks cs a → ValuesText vs a b →
      Blanks b (')' :: rest) → ListText vs ('(' :: cs) rest

/-- The operand that an operator takes. -/
inductive OperandText : Operator → Value → List Char → List Char → Prop where
  | none {negated : Bool} {cs : List Char} : OperandText (.nullness negated) .null cs cs
  | list {negated : Bool} {vs : List Value} {cs a rest : List Char} : Blanks cs a →
      ListText vs a rest → OperandText (.membership negated) (.list vs) cs rest
  | value {op : Operator} {v : Value} {cs a rest : List Char} : op.isNullness = false →
      op.isMembership = false → Blanks cs a → ValueText v a rest → OperandText op v cs rest

inductive ComparisonText (field : String) (op : Operator) (v : Value) (cs rest : List Char) :
    Prop where
  | parts {a b c : List Char} : PathText field cs a → Blanks a b → OperatorText op b c →
      OperandText op v c rest → ComparisonText field op v cs rest

/-- The name of a conjunction, in any case of ASCII letters. -/
def ConjunctionText (c : Conjunction) (cs rest : List Char) : Prop :=
  ∃ taken, cs = taken ++ rest ∧ Text.sameIgnoringCase (String.ofList taken) c.token = true

mutual

/-- A single term means what it means, several terms the compound of them. -/
inductive SequenceText : Predicate → List Char → List Char → Prop where
  | single {p : Predicate} {cs rest : List Char} : TermText p cs rest → SequenceText p cs rest
  | several {c : Conjunction} {p q : Predicate} {ps : List Predicate} {cs a rest : List Char} :
      TermText p cs a → MoreText c (q :: ps) a rest →
      SequenceText (.compound c (p :: q :: ps)) cs rest

inductive TermText : Predicate → List Char → List Char → Prop where
  | group {p : Predicate} {cs a b c rest : List Char} : Blanks cs ('(' :: a) → Blanks a b →
      SequenceText p b c → Blanks c (')' :: rest) → TermText p cs rest
  | all {cs rest : List Char} : Blanks cs ('*' :: rest) → TermText .matchAll cs rest
  | comparison {field : String} {op : Operator} {v : Value} {p : Predicate}
      {cs a rest : List Char} : Blanks cs a → ComparisonText field op v a rest →
      Predicate.make field op v = .ok p → TermText p cs rest

/-- Further terms, each after the conjunction. -/
inductive MoreText : Conjunction → List Predicate → List Char → List Char → Prop where
  | nil {c : Conjunction} {cs : List Char} : MoreText c [] cs cs
  | cons {c : Conjunction} {p : Predicate} {ps : List Predicate} {cs a b d e rest : List Char} :
      Gap cs a → ConjunctionText c a b → Gap b d → TermText p d e → MoreText c ps e rest →
      MoreText c (p :: ps) cs rest

end

section Blanks

variable {cs a rest : List Char}

theorem blanks_skipBlank (cs : List Char) : Blanks cs (Expression.skipBlank cs) := by
  induction cs with
  | nil => exact .none []
  | cons c cs ih =>
    rw [Expression.skipBlank, List.dropWhile_cons]
    split
    · exact .more ‹_› ih
    · exact .none _

theorem Blanks.skipBlank_eq (h : Blanks cs rest) :
    Expression.skipBlank cs = Expression.skipBlank rest := by
  induction h with
  | none cs => rfl
  | more hc _ ih => rw [← ih, Expression.skipBlank, List.dropWhile_cons_of_pos hc]; rfl

/-- Blanks before something else are all the blanks there are. -/
theorem Blanks.skipBlank_of_stops (h : Blanks cs rest) (hrest : Stops isBlank rest) :
    Expression.skipBlank cs = rest := by
  rw [h.skipBlank_eq, Expression.skipBlank_of_stops hrest]

theorem stops_skipBlank (cs : List Char) : Stops isBlank (Expression.skipBlank cs) :=
  Text.stops_dropWhile isBlank cs

theorem Blanks.length_le (h : Blanks cs rest) : rest.length ≤ cs.length := by
  induction h with
  | none cs => exact Nat.le_refl _
  | more _ _ ih => exact Nat.le_succ_of_le ih

theorem blanks_iff : Expression.blanks cs = .ok ((), rest) ↔ Gap cs rest ∧ Stops isBlank rest := by
  constructor
  · intro h
    cases cs with
    | nil => cases h
    | cons c cs =>
      rw [Expression.blanks] at h
      split at h
      · cases h
        exact ⟨.blanks ‹_› (blanks_skipBlank cs), stops_skipBlank cs⟩
      · cases h
  · rintro ⟨⟨hc, hblanks⟩, hstops⟩
    rw [Expression.blanks, if_pos hc, hblanks.skipBlank_of_stops hstops]

theorem Gap.blanks_eq (h : Gap cs rest) :
    Expression.blanks cs = .ok ((), Expression.skipBlank rest) := by
  obtain ⟨hc, hblanks⟩ := h
  rw [Expression.blanks, if_pos hc, hblanks.skipBlank_eq]

theorem Gap.toBlanks (h : Gap cs rest) : Blanks cs rest := by
  obtain ⟨hc, hblanks⟩ := h
  exact .more hc hblanks

theorem Gap.length_lt (h : Gap cs rest) : rest.length < cs.length := by
  obtain ⟨-, hblanks⟩ := h
  exact Nat.lt_succ_of_le hblanks.length_le

end Blanks

section Runs

variable {p : Char → Bool} {taken cs rest : List Char}

theorem Run.start (h : Run p taken cs rest) : ∃ c more, cs = c :: more ∧ p c = true := by
  obtain ⟨c, more, rfl⟩ := List.exists_cons_of_ne_nil h.nonempty
  exact ⟨c, more ++ rest, h.text, h.all c (List.mem_cons_self ..)⟩

theorem Run.length_lt (h : Run p taken cs rest) : rest.length < cs.length := by
  have hne := List.length_pos_iff.2 h.nonempty
  rw [h.text, List.length_append]
  omega

theorem run_iff : Expression.run p cs = .ok (taken, rest) ↔ Run p taken cs rest := by
  constructor
  · intro h
    unfold Expression.run at h
    split at h
    · cases h
    · rename_i hne
      cases h
      exact ⟨List.takeWhile_append_dropWhile.symm, hne,
        fun c hc => List.all_eq_true.1 List.all_takeWhile c hc, Text.stops_dropWhile p cs⟩
  · rintro ⟨rfl, hne, hall, hstops⟩
    exact Expression.run_append hne hall hstops

theorem word_iff {w : String} : Expression.word cs = .ok (w, rest) ↔ Word w cs rest := by
  constructor
  · intro h
    obtain ⟨⟨taken, after⟩, hrun, h⟩ := Expression.ok_of_bind h
    cases h
    exact ⟨taken, run_iff.1 hrun, String.toList_ofList.symm⟩
  · rintro ⟨taken, hrun, hw⟩
    rw [Expression.word, run_iff.2 hrun, ← String.ofList_toList (s := w), ← hw]
    rfl

theorem Word.start {w : String} (h : Word w cs rest) :
    ∃ c more, cs = c :: more ∧ isWordChar c = true := by
  obtain ⟨taken, hrun, -⟩ := h
  exact hrun.start

theorem Word.length_lt {w : String} (h : Word w cs rest) : rest.length < cs.length := by
  obtain ⟨taken, hrun, -⟩ := h
  exact hrun.length_lt

/-- A word that follows blanks. -/
theorem nextWord_iff {w : String} :
    Expression.nextWord cs = .ok (w, rest) ↔ ∃ a, Gap cs a ∧ Word w a rest := by
  constructor
  · intro h
    obtain ⟨⟨done, a⟩, hblanks, h⟩ := Expression.ok_of_bind h
    exact ⟨a, (blanks_iff.1 hblanks).1, word_iff.1 h⟩
  · rintro ⟨a, hgap, hword⟩
    obtain ⟨c, more, rfl, hc⟩ := hword.start
    have hstops : Stops isBlank (c :: more) :=
      Text.stops_cons.2 (Expression.isBlank_of_isWordChar hc)
    rw [Expression.nextWord, blanks_iff.2 ⟨hgap, hstops⟩]
    exact word_iff.2 hword

theorem path_iff {field : String} :
    Expression.path cs = .ok (field, rest) ↔ PathText field cs rest := by
  constructor
  · intro h
    have hgrammar := Expression.inGrammar_of_path h
    obtain ⟨⟨taken, after⟩, hrun, h⟩ := Expression.ok_of_bind h
    have htaken := run_iff.1 hrun
    cases taken with
    | nil => exact absurd rfl htaken.nonempty
    | cons c more =>
      dsimp only at h
      split at h
      · cases h
      · cases h
        rw [← String.toList_ofList (l := c :: more)] at htaken
        exact ⟨htaken, hgrammar.2⟩
  · rintro ⟨⟨htext, hne, hall, hstops⟩, hfirst⟩
    rw [htext]
    exact Expression.path_text hne ⟨hall, hfirst⟩ hstops

end Runs

end Grammar
end Sieve
