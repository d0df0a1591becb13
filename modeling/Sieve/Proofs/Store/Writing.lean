import Mathlib
import Sieve.Proofs.Store.Requests

/-!
# Sieve.Proofs.Store.Writing

What statements write to columns. Nulls are written as themselves and take no argument, and an
update leaves two columns out, so a column, its value and its argument stand in different places in
their lists. Still every column has its own value in the text of the statement, and a row that is
written holds the record: `written_in_place`.
-/

namespace Sieve

open Sql Database

namespace Sql

/-- What stands in the place of a value: the word for null, or the placeholder of an argument. -/
inductive Token.StandsFor (arguments : List Argument) : Token → Argument → Prop where
  | null : StandsFor arguments (.word "NULL") .null
  | value {index : Nat} {a : Argument} (given : arguments[index]? = some a)
    (present : a.isNull = false) : StandsFor arguments (.param (index + 1)) a

section Layout

open Token

/-- `INSERT INTO table (columns) VALUES (values)` -/
def insertLayout (table : String) (columns : List String) (values : List Token) : List Token :=
  [word "INSERT", blank, word "INTO", blank] ++ qualifiedTokens table ++
    blank :: inParens (listed (columns.map fun column => [named column])) ++
    [blank, word "VALUES", blank] ++ inParens (listed (values.map fun value => [value]))

/-- `column = value` for each column, then `version = version + 1`. -/
def setLayout (columns : List String) (values : List Token) : List Token :=
  listed ((columns.zip values).map (fun a => [named a.1, blank, mark "=", blank, a.2]) ++
    [[named versionColumn, blank, mark "=", blank, named versionColumn, blank, mark "+", blank,
      number 1]])

/-- `UPDATE table SET … WHERE id = … AND version = … RETURNING version` -/
def updateLayout (table : String) (columns : List String) (values : List Token)
    (id version : Token) : List Token :=
  [word "UPDATE", blank] ++ qualifiedTokens table ++ [blank, word "SET", blank] ++
    setLayout columns values ++ [blank, word "WHERE", blank] ++
    [named idColumn, blank, mark "=", blank, id, blank, word "AND", blank,
      named versionColumn, blank, mark "=", blank, version] ++
    [blank, word "RETURNING", blank, named versionColumn]

end Layout

end Sql

/-- What a column of a stored row holds. -/
def Stored.cell (r : Stored) (id column : String) : Argument :=
  if column = idColumn then .text id
  else if column = versionColumn then .int r.version
  else r.cells column

/-- A request that inserts a record: in its text every column has its own value, in the same place,
each argument has one placeholder, and the arguments are what is not null. What is written to a row,
and what a database stores under the identity of a record, is the record. -/
structure Request.Inserts (q : Request) (table : String) (columns : List String)
    (record : List Argument) : Prop where
  text : ∃ values, lex q.statement.text = some (insertLayout table columns values) ∧
    List.Forall₂ (Token.StandsFor q.arguments) values record ∧
    paramsOf (insertLayout table columns values) = List.range' 1 q.arguments.length
  arguments : q.arguments = record.filter fun a => !a.isNull
  row : ∃ cells written, q.statement = .insert table columns cells ∧
    values? q.arguments cells = some written ∧
    ∀ before, columns.map (overwrite before (columns.zip written)) = record
  stored : ∀ (db : Database) (t : Rows) (id : String) (v : Int64),
    Describes columns record id v → t.get? id = none →
      ∃ r, db.execute t q = (t.insert id r, .affected 1) ∧ columns.map (r.cell id) = record

/-- A request that writes a record over the row with an identity and an expected version: in its
text every column but these two has its own value, once, the version goes up by one, and the row is
looked for by both. A row that is found holds the values of the record then, and is as before
elsewhere. -/
structure Request.Updates (q : Request) (table : String) (columns : List String)
    (record : List Argument) (id : String) (expected : Int64) : Prop where
  own : ∀ column a, (column, a) ∈ assigned columns record ↔
    (column, a) ∈ columns.zip record ∧ column ≠ idColumn ∧ column ≠ versionColumn
  once : ((assigned columns record).map Prod.fst).Nodup
  text : ∃ values idToken versionToken,
    lex q.statement.text = some (updateLayout table ((assigned columns record).map Prod.fst) values
      idToken versionToken) ∧
    List.Forall₂ (Token.StandsFor q.arguments) values ((assigned columns record).map Prod.snd) ∧
    Token.StandsFor q.arguments idToken (.text id) ∧
    Token.StandsFor q.arguments versionToken (.int expected) ∧
    paramsOf (updateLayout table ((assigned columns record).map Prod.fst) values idToken
      versionToken) = List.range' 1 q.arguments.length
  arguments : q.arguments = (((assigned columns record).map Prod.snd).filter fun a => !a.isNull) ++
    [.text id, .int expected]
  found : ∀ (db : Database) (t : Rows) (r : Stored), t.get? id = some r → r.version = expected →
    expected ≠ Int64.maxValue → ∃ r', db.execute t q = (t.insert id r', .int (expected + 1)) ∧
      r'.version = expected + 1 ∧
      (∀ column a, (column, a) ∈ columns.zip record → column ≠ idColumn → column ≠ versionColumn →
        r'.cell id column = a) ∧
      ∀ column, column ∉ columns → column ≠ versionColumn → r'.cell id column = r.cell id column
  missed : ∀ (db : Database) (t : Rows), (∀ r, t.get? id = some r → r.version ≠ expected) →
    db.execute t q = (t, .rows [])

/-! ## Text -/

section Text

variable {next : Nat} {record values : List Argument} {tokens : List Token}

/-- Values that are numbered behind others stand for themselves among all arguments. -/
theorem Filled.standsFor (h : Filled next record tokens values) (before after : List Argument)
    (hnext : next = before.length + 1) :
    List.Forall₂ (Token.StandsFor (before ++ (values ++ after))) tokens record := by
  induction h generalizing before with
  | nil => exact .nil
  | null _ ih => exact .cons .null (ih before hnext)
  | @value next a record values tokens hpresent _ ih =>
    subst hnext
    have hrest := ih (before ++ [a]) (by rw [List.length_append, List.length_singleton])
    rw [List.append_assoc] at hrest
    exact .cons (.value (by simp) hpresent) hrest

theorem cells_standFor (record after : List Argument) :
    List.Forall₂ (Token.StandsFor (presentArguments record ++ after))
      ((cellsFrom 1 record).map Cell.token) record :=
  (filled_cellsFrom 1 record).standsFor [] after rfl

theorem tokens_insertRequest (table : String) (columns : List String) (record : List Argument) :
    (insertRequest table columns record).statement.tokens =
      insertLayout table columns ((cellsFrom 1 record).map Cell.token) := by
  simp only [insertRequest, Statement.tokens, insertLayout, namedList, List.map_map]
  rfl

theorem tokens_updateRequest (table : String) (columns : List String) (record : List Argument)
    (id : String) (expected : Int64) :
    let pairs := assigned columns record
    let count := (presentArguments (pairs.map Prod.snd)).length
    (updateRequest table columns record id expected).statement.tokens =
      updateLayout table (pairs.map Prod.fst) ((cellsFrom 1 (pairs.map Prod.snd)).map Cell.token)
        (.param (count + 1)) (.param (count + 2)) := by
  intro pairs count
  have hstatement : (updateRequest table columns record id expected).statement =
      .update table ((pairs.map Prod.fst).zip (cellsFrom 1 (pairs.map Prod.snd)))
        (.junction .and (hasId (count + 1)) (hasVersion (count + 2))) := rfl
  have hset : ((pairs.map Prod.fst).zip (cellsFrom 1 (pairs.map Prod.snd))).map assignmentTokens =
      ((pairs.map Prod.fst).zip ((cellsFrom 1 (pairs.map Prod.snd)).map Cell.token)).map
        fun a => [.named a.1, .blank, .mark "=", .blank, a.2] := by
    rw [List.zip_map_right, List.map_map]
    rfl
  have hfilter : (Expr.junction .and (hasId (count + 1)) (hasVersion (count + 2))).tokens =
      [.named idColumn, .blank, .mark "=", .blank, .param (count + 1), .blank, .word "AND", .blank,
        .named versionColumn, .blank, .mark "=", .blank, .param (count + 2)] := rfl
  rw [hstatement, Statement.tokens, updateLayout, setLayout, hset, hfilter, versionStep]

end Text

/-! ## Rows -/

section Rows

variable {columns : List String} {record : List Argument}

/-- What has each value of a record in its column has the record. -/
theorem map_eq_of_zip {f : String → Argument} (hlength : record.length = columns.length)
    (h : ∀ column a, (column, a) ∈ columns.zip record → f column = a) : columns.map f = record := by
  induction columns generalizing record with
  | nil => exact (List.eq_nil_of_length_eq_zero hlength).symm
  | cons column columns ih =>
    cases record with
    | nil => cases hlength
    | cons a record =>
      have hrest := ih (Nat.succ.inj hlength) fun c b hb => h c b (List.mem_cons_of_mem _ hb)
      rw [List.map_cons, h column a (List.mem_cons_self ..), hrest]

theorem overwrite_zip (hdistinct : columns.Nodup) (hlength : record.length = columns.length)
    (before : String → Argument) :
    columns.map (overwrite before (columns.zip record)) = record := by
  refine map_eq_of_zip hlength fun column a hmem => ?_
  rw [overwrite, lookup_of_mem (nodup_zip hdistinct hlength) hmem, Option.getD_some]

/-- A row that is made of a record holds it, identity and version included. -/
theorem cell_of_describes {id : String} {v : Int64} (h : Describes columns record id v) :
    columns.map (Stored.cell ⟨v, overwrite (fun _ => .null) (assigned columns record)⟩ id) =
      record := by
  refine map_eq_of_zip h.length fun column a hmem => ?_
  have hlookup := lookup_of_mem (nodup_zip h.distinct h.length) hmem
  simp only [Stored.cell]
  split
  · next hid =>
    rw [hid, h.identity] at hlookup
    exact Option.some.inj hlookup
  · next hid =>
    split
    · next hversion =>
      rw [hversion, h.version] at hlookup
      exact Option.some.inj hlookup
    · next hversion =>
      have hmem' := mem_assigned.2 ⟨hmem, hid, hversion⟩
      exact overwrite_assigned h.distinct h.length hmem'

end Rows

/-! ## Requests -/

section Requests

variable {columns : List String} {record : List Argument}

theorem insertRequest_inserts (table : String) (hdistinct : columns.Nodup)
    (hlength : record.length = columns.length) :
    (insertRequest table columns record).Inserts table columns record where
  text := by
    refine ⟨(cellsFrom 1 record).map Cell.token, ?_, ?_, ?_⟩
    · rw [← tokens_insertRequest]
      exact lex_statement fun text h => by cases h
    · have hcells := cells_standFor record []
      rwa [List.append_nil] at hcells
    · rw [← tokens_insertRequest, paramsOf_statement]
      exact params_insertRequest table columns record
  arguments := rfl
  row := ⟨_, record, rfl, values?_record record, overwrite_zip hdistinct hlength⟩
  stored db t id v hdescribes hfree := by
    refine ⟨_, ?_, cell_of_describes hdescribes⟩
    rw [execute_insert hdescribes, hfree]

theorem updateRequest_updates (table : String) (hdistinct : columns.Nodup)
    (hlength : record.length = columns.length) (id : String) (expected : Int64) :
    (updateRequest table columns record id expected).Updates table columns record id expected where
  own column a := mem_assigned
  once := nodup_assigned hdistinct hlength
  text := by
    let values := (assigned columns record).map Prod.snd
    let count := (presentArguments values).length
    have harguments : (updateRequest table columns record id expected).arguments =
        presentArguments values ++ [.text id, .int expected] := rfl
    have htokens := tokens_updateRequest table columns record id expected
    refine ⟨(cellsFrom 1 values).map Cell.token, .param (count + 1), .param (count + 2), ?_, ?_, ?_,
      ?_, ?_⟩
    · rw [← htokens]
      exact lex_statement fun text h => by cases h
    · rw [harguments]
      exact cells_standFor values [.text id, .int expected]
    · rw [harguments]
      exact .value (by simp [count]) rfl
    · rw [harguments]
      exact .value (by simp [count]) rfl
    · rw [← htokens, paramsOf_statement]
      exact params_updateRequest table columns record id expected
  arguments := rfl
  found db t r hrow hversion hsmall := by
    refine ⟨⟨expected + 1, overwrite r.cells (assigned columns record)⟩, ?_, rfl, ?_, ?_⟩
    · simp [execute_update, hrow, Option.filter, hversion, hsmall]
    · intro column a hmem hid hother
      have hmem' := mem_assigned.2 ⟨hmem, hid, hother⟩
      simp only [Stored.cell, if_neg hid, if_neg hother]
      exact overwrite_assigned hdistinct hlength hmem'
    · intro column hnew hother
      simp only [Stored.cell, if_neg hother]
      rw [overwrite_other hnew]
  missed db t hmissed := by
    have hnone : (t.get? id).filter (fun r => r.version == expected) = none := by
      rw [Option.filter_eq_none_iff]
      exact fun r hr => by simpa using hmissed r hr
    rw [execute_update, hnone]

/-- Whatever the table, its columns and the record, and whichever values are null: what an INSERT
and an UPDATE write is the record, each value in its own column. -/
theorem written_in_place (table : String) (columns : List String) (record : List Argument)
    (hdistinct : columns.Nodup) (hlength : record.length = columns.length) :
    (insertRequest table columns record).Inserts table columns record ∧
      ∀ id expected,
        (updateRequest table columns record id expected).Updates table columns record id expected :=
  ⟨insertRequest_inserts table hdistinct hlength, updateRequest_updates table hdistinct hlength⟩

/-- A record without an owner, in a table with parts in its name. -/
theorem written_in_place_unowned :
    let columns := ["id", "owner", "Name", "version"]
    let record := [.text "a", .null, .text "north", .int 3]
    columns.Nodup ∧ record.length = columns.length ∧
      (insertRequest "ops.sites" columns record).Inserts "ops.sites" columns record ∧
      (updateRequest "ops.sites" columns record "a" 3).Updates "ops.sites" columns record "a"
        3 := by
  intro columns record
  have hdistinct : columns.Nodup := by decide
  obtain ⟨hinserts, hupdates⟩ := written_in_place "ops.sites" columns record hdistinct rfl
  exact ⟨hdistinct, rfl, hinserts, hupdates "a" 3⟩

example : (updateRequest "ops.sites" ["id", "owner", "Name", "version"]
    [.text "a", .null, .text "north", .int 3] "a" 3).statement.text =
      "UPDATE ops.sites SET owner = NULL, \"Name\" = $1, version = version + 1 " ++
        "WHERE id = $2 AND version = $3 RETURNING version" := by
  decide +kernel

end Requests

end Sieve
