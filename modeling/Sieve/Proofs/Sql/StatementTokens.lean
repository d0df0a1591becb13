import Mathlib.Data.List.Basic
import Sieve.Proofs.Sql.Placeholders
import Sieve.Sql.Statement

/-!
# Sieve.Proofs.Sql.StatementTokens

The tokens of statements. Whatever names and conditions a statement has, its text is cut into just
its tokens (`lex_statement`), and its placeholders are those of its parts, one part after the other
(`paramsOf_statement`).
-/

namespace Sieve
namespace Sql

/-! ## Text -/

section Text

theorem phrase_named (name : String) : Phrase [.named name] :=
  Phrase.single (Token.isWritable_named name) (Token.opens_named name) (Token.closes_named name)

theorem apart_named_point (name : String) : Token.apart (.named name) (.mark ".") = true := by
  unfold Token.named
  split <;> rfl

theorem apart_point_named (name : String) : Token.apart (.mark ".") (.named name) = true := by
  have hw := Token.isWritable_named name
  unfold Token.named at hw ⊢
  cases hbare : isBare name with
  | false => rfl
  | true =>
    rw [hbare] at hw
    obtain ⟨c, cs, hcs, hc⟩ := word_cases hw
    have hpoint : continuesPoint c = false := by
      by_contra h
      simp only [continuesPoint, Bool.not_eq_false, Bool.or_eq_true, beq_iff_eq] at h
      rcases h with rfl | hdigit
      · revert hc
        decide
      · rw [startsWord_of_isDigit hdigit] at hc
        cases hc
    simp [Token.apart, Token.chars, hcs, Token.goesOn, hpoint]

/-- Names with points between them. -/
theorem phrase_interspersed {names : List String} (h : names ≠ []) :
    Phrase ((names.map Token.named).intersperse (.mark ".")) := by
  induction names with
  | nil => exact absurd rfl h
  | cons name more ih =>
    cases more with
    | nil => exact phrase_named name
    | cons next more =>
      have hrest := ih (List.cons_ne_nil next more)
      have hpoint : Spaced [.mark "."] := by decide
      have hhead : (((next :: more).map Token.named).intersperse (.mark ".")).head? =
          some (.named next) := by
        cases more <;> rfl
      have hshape : ((name :: next :: more).map Token.named).intersperse (.mark ".") =
          [.named name] ++ ([.mark "."] ++ ((next :: more).map Token.named).intersperse (.mark "."))
          := rfl
      rw [hshape]
      refine ⟨(phrase_named name).spaced.append (hpoint.append hrest.spaced ?_) ?_, ?_, ?_⟩
      · intro t ht u hu
        rw [hhead, Option.mem_some_iff] at hu
        rw [List.getLast?_singleton, Option.mem_some_iff] at ht
        rw [← ht, ← hu]
        exact apart_point_named next
      · intro t ht u hu
        rw [List.cons_append, List.head?_cons, Option.mem_some_iff] at hu
        rw [List.getLast?_singleton, Option.mem_some_iff] at ht
        rw [← ht, ← hu]
        exact apart_named_point name
      · exact Token.opens_named name
      · rw [getLast?_append_of_any (getLast?_append_of_any hrest.last ▸ hrest.last),
          getLast?_append_of_any hrest.last]
        exact hrest.last

theorem getLast?_interspersed {names : List String} (h : names ≠ []) :
    ∃ name, ((names.map Token.named).intersperse (.mark ".")).getLast? = some (.named name) := by
  induction names with
  | nil => exact absurd rfl h
  | cons name more ih =>
    cases more with
    | nil => exact ⟨name, rfl⟩
    | cons next more =>
      obtain ⟨last, hlast⟩ := ih (List.cons_ne_nil next more)
      refine ⟨last, ?_⟩
      have hshape : ((name :: next :: more).map Token.named).intersperse (.mark ".") =
          [.named name, .mark "."] ++ ((next :: more).map Token.named).intersperse (.mark ".") :=
        rfl
      rw [hshape, List.getLast?_append, hlast, Option.some_or]

/-- The name of a table, with its parts. -/
theorem phrase_qualified (table : String) : Phrase (qualifiedTokens table) ∧
    ∃ name, (qualifiedTokens table).getLast? = some (.named name) := by
  have hne : (Text.split '.' table.toList).map String.ofList ≠ [] := by
    simp [Text.split_ne_nil]
  have hparts := phrase_interspersed hne
  have hlast := getLast?_interspersed hne
  rw [List.map_map] at hparts hlast
  exact ⟨hparts, hlast⟩

theorem phrase_namedList {names : List String} (h : names ≠ []) : Phrase (namedList names) := by
  refine Phrase.listed (by simpa using h) fun ts hts => ?_
  obtain ⟨name, -, rfl⟩ := List.mem_map.1 hts
  exact phrase_named name

/-- What is selected, unless that is nothing at all. -/
theorem phrase_selection {selection : Selection} (h : selection ≠ .columns []) :
    Phrase selection.tokens := by
  cases selection with
  | columns names => exact phrase_namedList fun hnil => h (by rw [hnil])
  | document table =>
    obtain ⟨htable, name, hname⟩ := phrase_qualified table
    have hcall : Phrase [.word "to_jsonb"] := by decide
    have hstar : Spaced [.mark ".", .mark "*"] := by decide
    have hrow : Spaced (qualifiedTokens table ++ [.mark ".", .mark "*"]) :=
      htable.spaced.append hstar fun t ht u hu => by
        rw [List.head?_cons, Option.mem_some_iff] at hu
        rw [hname, Option.mem_some_iff] at ht
        rw [← hu, ← ht]
        exact apart_named_point name
    have hopen : Spaced [.mark "("] := by decide
    have hclose : Spaced [.mark ")"] := by decide
    have hin : Spaced (qualifiedTokens table ++ [.mark ".", .mark "*"] ++ [.mark ")"]) :=
      hrow.append hclose fun t ht u hu => by
        have hmark : (qualifiedTokens table ++ [Token.mark ".", .mark "*"]).getLast? =
            some (.mark "*") := by simp
        rw [List.head?_cons, Option.mem_some_iff] at hu
        rw [hmark, Option.mem_some_iff] at ht
        rw [← hu, ← ht]
        decide
    have hparens : Phrase (inParens (qualifiedTokens table ++ [.mark ".", .mark "*"])) := by
      refine ⟨hopen.append hin fun t ht u _ => ?_, rfl, ?_⟩
      · rw [List.getLast?_singleton, Option.mem_some_iff] at ht
        rw [← ht]
        exact Token.apart_of_never rfl u
      · rw [getLast?_inParens]
        rfl
    exact hcall.call hparens

theorem phrase_fromWhere (table : String) (filter : Expr) : Phrase (fromWhere table filter) := by
  have hfrom : Phrase [.word "FROM"] := by decide
  have hblank : Joint [.blank] := by decide
  have hwhere : Joint [.blank, .word "WHERE", .blank] := by decide
  have h := (hfrom.joined hblank (phrase_qualified table).1).joined hwhere (phrase_tokens filter)
  simpa [fromWhere] using h

theorem phrase_cell (c : Cell) : Phrase [c.token] := by
  cases c with
  | null => decide
  | param index => exact Phrase.single trivial rfl rfl

theorem phrase_assignment (a : String × Cell) : Phrase (assignmentTokens a) := by
  have hequals : Joint [.blank, .mark "=", .blank] := by decide
  exact (phrase_named a.1).joined hequals (phrase_cell a.2)

theorem phrase_cells (cells : List Cell) :
    Phrase (inParens (listed (cells.map fun cell => [cell.token]))) := by
  cases cells with
  | nil => decide
  | cons c cells =>
    refine Phrase.parens (Phrase.listed (by simp) fun ts hts => ?_)
    obtain ⟨d, -, rfl⟩ := List.mem_map.1 hts
    exact phrase_cell d

theorem phrase_columns (columns : List String) : Phrase (inParens (namedList columns)) := by
  cases columns with
  | nil => decide
  | cons column columns => exact (phrase_namedList (List.cons_ne_nil column columns)).parens

theorem phrase_assignments (assignments : List (String × Cell)) :
    Phrase (listed (assignments.map assignmentTokens ++ [versionStep])) := by
  have hstep : Phrase versionStep := by decide
  refine Phrase.listed (by simp) fun ts hts => ?_
  rcases List.mem_append.1 hts with hts | hts
  · obtain ⟨a, -, rfl⟩ := List.mem_map.1 hts
    exact phrase_assignment a
  · rwa [List.mem_singleton.1 hts]

/-- The order and the extent behind a query. -/
theorem phrase_query {ts : List Token} (h : Phrase ts) (ordered : Bool) (extent : Extent) :
    Phrase (ts ++ orderTokens ordered ++ extent.tokens) := by
  have horder : Joint [.blank, .word "ORDER", .blank, .word "BY", .blank] := by decide
  have hlimit : Joint [.blank, .word "LIMIT", .blank] := by decide
  have hoffset : Joint [.blank, .word "OFFSET", .blank] := by decide
  have hnumber : Phrase [.number 1] := by decide
  have hparam : ∀ index, Phrase [.param index] := fun index => Phrase.single trivial rfl rfl
  have hordered : Phrase (ts ++ orderTokens ordered) := by
    cases ordered with
    | true => exact h.suffix horder (phrase_named idColumn)
    | false => simpa [orderTokens] using h
  cases extent with
  | all => simpa [Extent.tokens] using hordered
  | first => exact hordered.suffix hlimit hnumber
  | page limit offset =>
    have hpage := (hordered.joined hlimit (hparam limit)).joined hoffset (hparam offset)
    simpa [Extent.tokens] using hpage

/-- The tokens of a statement that is not given by its text are a phrase. -/
theorem phrase_statement {s : Statement} (h : ∀ text, s ≠ .verbatim text) : Phrase s.tokens := by
  have hblank : Joint [.blank] := by decide
  have hselect : Phrase [.word "SELECT"] := by decide
  cases s with
  | select selection table filter ordered extent =>
    have hfrom := phrase_fromWhere table filter
    have hselected : Phrase ([.word "SELECT", .blank] ++ selection.tokens ++
        .blank :: fromWhere table filter) := by
      by_cases hnone : selection = .columns []
      · subst hnone
        have hgap : Joint [.blank, .blank] := by decide
        have hs := hselect.joined hgap hfrom
        simpa [Selection.tokens, namedList, listed] using hs
      · have hs := (hselect.joined hblank (phrase_selection hnone)).joined hblank hfrom
        simpa using hs
    exact phrase_query hselected ordered extent
  | count table filter =>
    have hcount : Phrase [.word "SELECT", .blank, .word "COUNT", .mark "(", .mark "*",
        .mark ")"] := by decide
    exact hcount.joined hblank (phrase_fromWhere table filter)
  | existence table filter =>
    have hexists : Phrase [.word "SELECT", .blank, .word "EXISTS"] := by decide
    have hone : Phrase [.word "SELECT", .blank, .number 1] := by decide
    exact hexists.joined hblank (hone.joined hblank (phrase_fromWhere table filter)).parens
  | insert table columns cells =>
    have hinsert : Phrase [.word "INSERT", .blank, .word "INTO"] := by decide
    have hvalues : Joint [.blank, .word "VALUES", .blank] := by decide
    have hs := ((hinsert.joined hblank (phrase_qualified table).1).joined hblank
      (phrase_columns columns)).joined hvalues (phrase_cells cells)
    simpa [Statement.tokens] using hs
  | update table assignments filter =>
    have hupdate : Phrase [.word "UPDATE"] := by decide
    have hset : Joint [.blank, .word "SET", .blank] := by decide
    have hwhere : Joint [.blank, .word "WHERE", .blank] := by decide
    have hreturning : Joint [.blank, .word "RETURNING", .blank] := by decide
    have hs := (((hupdate.joined hblank (phrase_qualified table).1).joined hset
      (phrase_assignments assignments)).joined hwhere (phrase_tokens filter)).joined hreturning
        (phrase_named versionColumn)
    simpa [Statement.tokens] using hs
  | delete table filter =>
    have hdelete : Phrase [.word "DELETE"] := by decide
    exact hdelete.joined hblank (phrase_fromWhere table filter)
  | verbatim text => exact absurd rfl (h text)

/-- The text of a statement is cut into its tokens. -/
theorem lex_statement {s : Statement} (h : ∀ text, s ≠ .verbatim text) :
    lex s.text = some s.tokens :=
  lex_textOf (phrase_statement h).spaced

end Text

/-! ## Placeholders -/

namespace Cell

def index? : Cell → Option Nat
  | .null => none
  | .param index => some index

end Cell

namespace Extent

def params : Extent → List Nat
  | .page limit offset => [limit, offset]
  | _ => []

end Extent

namespace Statement

/-- The placeholders of the parts of a statement, from left to right. -/
def params : Statement → List Nat
  | .select _ _ filter _ extent => filter.params ++ extent.params
  | .count _ filter => filter.params
  | .existence _ filter => filter.params
  | .insert _ _ cells => cells.filterMap Cell.index?
  | .update _ assignments filter =>
    (assignments.filterMap fun a => a.2.index?) ++ filter.params
  | .delete _ filter => filter.params
  | .verbatim _ => []

end Statement

section Params

theorem paramsOf_interspersed (names : List String) :
    paramsOf ((names.map Token.named).intersperse (.mark ".")) = [] := by
  induction names with
  | nil => rfl
  | cons name more ih =>
    cases more with
    | nil => exact paramsOf_named name
    | cons next more =>
      have hshape : ((name :: next :: more).map Token.named).intersperse (.mark ".") =
          [.named name] ++ (.mark "." :: ((next :: more).map Token.named).intersperse (.mark ".")) :=
        rfl
      rw [hshape, paramsOf_append, paramsOf_named, paramsOf_mark, ih]
      rfl

@[simp] theorem paramsOf_qualified (table : String) : paramsOf (qualifiedTokens table) = [] := by
  have h := paramsOf_interspersed ((Text.split '.' table.toList).map String.ofList)
  rwa [List.map_map] at h

@[simp] theorem paramsOf_namedList (names : List String) : paramsOf (namedList names) = [] := by
  rw [namedList, paramsOf_listed, List.flatMap_map]
  simp

@[simp] theorem paramsOf_selection (selection : Selection) : paramsOf selection.tokens = [] := by
  cases selection <;> simp [Selection.tokens]

@[simp] theorem paramsOf_fromWhere (table : String) (filter : Expr) :
    paramsOf (fromWhere table filter) = filter.params := by
  simp [fromWhere, paramsOf_tokens]

theorem paramsOf_cell (c : Cell) : paramsOf [c.token] = c.index?.toList := by
  cases c <;> rfl

@[simp] theorem paramsOf_cells (cells : List Cell) :
    paramsOf (listed (cells.map fun cell => [cell.token])) = cells.filterMap Cell.index? := by
  simp only [paramsOf_listed, List.flatMap_map, paramsOf_cell, List.filterMap_eq_flatMap_toList]

@[simp] theorem paramsOf_order (ordered : Bool) : paramsOf (orderTokens ordered) = [] := by
  cases ordered <;> rfl

@[simp] theorem paramsOf_extent (extent : Extent) : paramsOf extent.tokens = extent.params := by
  cases extent <;> rfl

theorem paramsOf_assignment (a : String × Cell) :
    paramsOf (assignmentTokens a) = a.2.index?.toList := by
  have hshape : assignmentTokens a = [.named a.1] ++ [.blank, .mark "=", .blank] ++ [a.2.token] :=
    rfl
  rw [hshape, paramsOf_append, paramsOf_append, paramsOf_named, paramsOf_cell]
  rfl

@[simp] theorem paramsOf_assignments (assignments : List (String × Cell)) :
    paramsOf (listed (assignments.map assignmentTokens ++ [versionStep])) =
      assignments.filterMap fun a => a.2.index? := by
  have hstep : paramsOf versionStep = [] := rfl
  rw [paramsOf_listed, List.flatMap_append, List.flatMap_map, List.flatMap_singleton, hstep,
    List.append_nil]
  simp only [paramsOf_assignment, List.filterMap_eq_flatMap_toList]

/-- The placeholders of a statement are those of its parts. -/
theorem paramsOf_statement (s : Statement) : paramsOf s.tokens = s.params := by
  cases s with
  | verbatim text => rfl
  | _ => simp [Statement.tokens, Statement.params, paramsOf_tokens]

end Params

end Sql
end Sieve
