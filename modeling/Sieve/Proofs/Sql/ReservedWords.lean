import Sieve.Proofs.Sql.Names

/-!
# Sieve.Proofs.Sql.ReservedWords

Names of columns and the words that a server keeps for itself. A quoted name is always a column. A
bare word is the column of that name in lower case, unless it is reserved: then it is something
else, or no expression at all. Names are written bare where their characters allow it, so a reserved
name of such characters is not read as its column: `identifier_denotes`.
-/

namespace Sieve
namespace Sql

variable {reserved : String → Bool} {name : String}

/-- The column that a token denotes as an expression. -/
def Token.denotes? (reserved : String → Bool) : Token → Option String
  | .word s =>
    let name := Text.asciiLower s
    if reserved name then none else some name
  | .quoted name => some name
  | _ => none

/-- The column that a text denotes, if it is a reference to one. -/
def columnOf? (reserved : String → Bool) (sql : String) : Option String :=
  match lex sql with
  | some [t] => t.denotes? reserved
  | _ => none

/-- A reserved word that is written bare. -/
def Hidden (reserved : String → Bool) (name : String) : Prop :=
  isBare name = true ∧ reserved name = true

instance : Decidable (Hidden reserved name) := inferInstanceAs (Decidable (_ ∧ _))

theorem denotes?_named :
    (Token.named name).denotes? reserved = if Hidden reserved name then none else some name := by
  unfold Token.named
  cases hbare : isBare name with
  | false => exact (if_neg fun h => Bool.false_ne_true (hbare.symm.trans h.1)).symm
  | true =>
    have hhidden : Hidden reserved name ↔ reserved name = true := and_iff_right hbare
    rw [if_pos rfl, Token.denotes?, Piece.asciiLower_of_isBare hbare]
    simp only [hhidden]

theorem denotes?_named_iff :
    (Token.named name).denotes? reserved = some name ↔ ¬ Hidden reserved name := by
  rw [denotes?_named]
  split <;> simp [*]

theorem columnOf?_identifier (reserved : String → Bool) (name : String) :
    columnOf? reserved (identifier name) = (Token.named name).denotes? reserved := by
  have htext : identifier name = (Expr.column name).text := by
    rw [Expr.text, Expr.tokens, textOf, List.flatMap_singleton, Token.chars_named,
      String.ofList_toList]
  rw [columnOf?, htext, lex_text]
  rfl

/-- The test of a plain column is its name and then the same for every column, unless it is that of
an empty list. -/
theorem tokens_columnTest {c : Condition} (h : c ≠ .membership false []) (first : Nat) :
    ∃ rest, ∀ column, (columnTest column c first).tokens = .named column :: rest := by
  cases c with
  | comparison op o => exact ⟨_, fun _ => rfl⟩
  | membership negated items =>
    cases negated with
    | false =>
      cases items with
      | nil => exact absurd rfl h
      | cons o items => exact ⟨_, fun _ => rfl⟩
    | true => cases items <;> exact ⟨_, fun _ => rfl⟩
  | textual test o => cases test <;> exact ⟨_, fun _ => rfl⟩
  | nullness negated => exact ⟨_, fun _ => rfl⟩

theorem condition_plain {catalog : Catalog} {l : Leaf} (hnested : l.field.nested = [])
    (hplain : catalog.kind? (catalog.columnFor l.field.root) = none) (first : Nat) :
    (compileFrom catalog (.leaf l) first).condition =
      columnTest (catalog.columnFor l.field.root) l.condition first := by
  have hkind : (targetOf catalog l).kind = none := by
    simp only [targetOf, hnested, hplain]
    rfl
  rw [compileFrom, test, leafTest, hkind]
  rfl

/-- A name as it is written denotes its column unless it is a reserved word written bare. The test
of a plain column consists of that token and of others that do not hang on the column, so it tests
the column under the same condition; only an empty list is not looked for in any column. -/
theorem identifier_denotes (reserved : String → Bool) (name : String) :
    (columnOf? reserved (identifier name) = some name ↔ ¬ Hidden reserved name) ∧
      ∀ (c : Condition) (first : Nat), 1 ≤ first →
        ∃ rest : List Token, ∀ (catalog : Catalog) (l : Leaf), l.condition = c →
          l.field.nested = [] → catalog.columnFor l.field.root = name →
          catalog.kind? name = none →
          ∃ compiled, compileFrom? catalog (.leaf l) first = .ok compiled ∧
            if c = .membership false [] then compiled.sql = "false"
            else ∃ t, lex compiled.sql = some (t :: rest) ∧
              (t.denotes? reserved = some name ↔ ¬ Hidden reserved name) := by
  refine ⟨?_, fun c first hfirst => ?_⟩
  · rw [columnOf?_identifier]
    exact denotes?_named_iff
  · have hne : first ≠ 0 := by omega
    by_cases hempty : c = .membership false []
    · refine ⟨[], fun catalog l hc hnested hroot hplain => ⟨_, if_neg hne, ?_⟩⟩
      rw [if_pos hempty, Compiled.sql, condition_plain hnested (hroot.symm ▸ hplain), hc, hempty]
      exact (by decide +kernel : (Expr.truth false).text = "false")
    · obtain ⟨rest, hrest⟩ := tokens_columnTest hempty first
      refine ⟨rest, fun catalog l hc hnested hroot hplain => ⟨_, if_neg hne, ?_⟩⟩
      rw [if_neg hempty, Compiled.sql, condition_plain hnested (hroot.symm ▸ hplain), hc, hroot,
        lex_text, hrest]
      exact ⟨_, rfl, denotes?_named_iff⟩

/-- Some words that a server reserves. -/
def someReserved : List String :=
  ["user", "current_user", "order", "select", "group", "limit", "end", "true", "null"]

/-- The leaf `keeper = "ann"`. -/
def keeperLeaf : Leaf where
  field := ⟨"keeper", by decide +kernel⟩
  condition := .comparison .eq ⟨.text "ann", rfl⟩

/-- The leaf `user = "ann"`. -/
def userLeaf : Leaf where
  field := ⟨"user", by decide +kernel⟩
  condition := .comparison .eq ⟨.text "ann", rfl⟩

theorem identifier_denotes_keeper :
    columnOf? someReserved.contains (identifier "keeper") = some "keeper" ∧
      ∃ t rest, lex (compile .empty (.leaf keeperLeaf)).sql = some (t :: rest) ∧
        t.denotes? someReserved.contains = some "keeper" := by
  have hseen : ¬ Hidden someReserved.contains "keeper" := by decide +kernel
  obtain ⟨hname, htests⟩ := identifier_denotes someReserved.contains "keeper"
  obtain ⟨rest, hrest⟩ := htests keeperLeaf.condition 1 (by decide)
  obtain ⟨compiled, hcompiled, htest⟩ :=
    hrest .empty keeperLeaf rfl (by decide +kernel) (by decide +kernel) rfl
  rw [if_neg (by decide)] at htest
  obtain ⟨t, hlex, hdenotes⟩ := htest
  cases hcompiled
  exact ⟨hname.2 hseen, t, rest, hlex, hdenotes.2 hseen⟩

/-- The column `user` is written as the word that stands for who asks, in its test as well. -/
theorem user_denotes_no_column :
    identifier "user" = "user" ∧ columnOf? someReserved.contains (identifier "user") = none ∧
      (compile .empty (.leaf userLeaf)).sql = "user = $1" ∧
      lex (compile .empty (.leaf userLeaf)).sql =
        some [.word "user", .blank, .mark "=", .blank, .param 1] ∧
      (Token.word "user").denotes? someReserved.contains = none := by
  refine ⟨?_, ?_, ?_, ?_, ?_⟩ <;> decide +kernel

end Sql
end Sieve
