import Mathlib
import Sieve.Proofs.Sql.Numbering
import Sieve.Proofs.Sql.StatementTokens
import Sieve.Proofs.Store.Rows
import Sieve.Proofs.Store.Tasks

/-!
# Sieve.Proofs.Store.Requests

The numbers in the requests of a store. Conditions, records and pages number their placeholders each
in its own way; put together in one statement they still fit its arguments: `sent_wellNumbered`.
-/

namespace Sieve

open Sql

variable {α : Type}

/-- Outside names and texts the placeholders of a statement are numbered from 1, in the order in
which they come first, one for each argument; and no argument is null. -/
structure Request.WellNumbered (q : Request) : Prop where
  numbered : ∃ tokens, lex q.statement.text = some tokens ∧
    (paramsOf tokens).eraseDups = List.range' 1 q.arguments.length
  present : ∀ a ∈ q.arguments, a.isNull = false

/-- The values of a record as they are written, numbered from `next`: a null as itself, without a
number, any other value as the next placeholder, which the value is the argument of. -/
inductive Filled : Nat → List Argument → List Token → List Argument → Prop where
  | nil (next : Nat) : Filled next [] [] []
  | null {next : Nat} {record arguments : List Argument} {tokens : List Token} :
      Filled next record tokens arguments →
      Filled next (.null :: record) (.word "NULL" :: tokens) arguments
  | value {next : Nat} {a : Argument} {record arguments : List Argument} {tokens : List Token} :
      a.isNull = false → Filled (next + 1) record tokens arguments →
      Filled next (a :: record) (.param next :: tokens) (a :: arguments)

/-- How the parts of a request share its numbers. Limit and offset come behind the condition; the
values of an entity are numbered in their places; identity and version come behind the values. -/
def Task.Shares (s : Store α) (task : Task α) (q : Request) : Prop :=
  match q.statement with
  | .select _ _ filter _ (.page limit offset) =>
    ∃ filtered most skipped, q.arguments = filtered ++ [.int most, .int skipped] ∧
      filter.params.eraseDups = List.range' 1 filtered.length ∧
      limit = filtered.length + 1 ∧ offset = filtered.length + 2
  | .insert _ columns cells =>
    ∃ a record, task = .create a ∧ s.recordOf a = .ok record ∧ columns = s.mapper.columns ∧
      Filled 1 record (cells.map Cell.token) q.arguments
  | .update _ assignments filter =>
    ∃ a record values, task = .update a ∧ s.recordOf a = .ok record ∧
      assignments.map Prod.fst = (assigned s.mapper.columns record).map Prod.fst ∧
      Filled 1 ((assigned s.mapper.columns record).map Prod.snd)
        (assignments.map fun b => b.2.token) values ∧
      q.arguments = values ++ [.text (s.mapper.idOf a), .int (s.mapper.versionOf a)] ∧
      filter = .junction .and (hasId (values.length + 1)) (hasVersion (values.length + 2))
  | _ => True

/-! ## Numbers -/

section Numbers

theorem eraseDups_append_range {ks : List Nat} {n : Nat} (h : ks.eraseDups = List.range' 1 n)
    (m : Nat) : (ks ++ List.range' (n + 1) m).eraseDups = List.range' 1 (n + m) := by
  have hlater : (List.range' (n + 1) m).removeAll ks = List.range' (n + 1) m := by
    refine removeAll_of_disjoint fun k hk hks => ?_
    rw [← List.mem_eraseDups, h, List.mem_range'_1] at hks
    have hge := (List.mem_range'_1.1 hk).1
    omega
  rw [List.eraseDups_append, hlater, h, eraseDups_of_nodup List.nodup_range', Nat.add_comm n 1,
    List.range'_append_1]

theorem Request.wellNumbered {q : Request} (hwritten : ∀ text, q.statement ≠ .verbatim text)
    (hparams : q.statement.params.eraseDups = List.range' 1 q.arguments.length)
    (hpresent : ∀ a ∈ q.arguments, a.isNull = false) : q.WellNumbered :=
  ⟨⟨_, lex_statement hwritten, by rw [paramsOf_statement, hparams]⟩, hpresent⟩

end Numbers

/-! ## Conditions -/

section Conditions

theorem isNull_documentArgument (x : Scalar) : (documentArgument x).isNull = false := by
  unfold documentArgument
  split
  · exact Argument.isNull_ofScalar x
  · rfl

/-- No operand is bound as null. -/
theorem isNull_leafArguments (catalog : Catalog) (l : Leaf) :
    ∀ a ∈ leafArguments catalog l, a.isNull = false := by
  rw [leafArguments_eq, List.forall_mem_map]
  intro o _
  unfold boundAs
  split
  · rfl
  · rfl
  · exact isNull_documentArgument _
  · exact Argument.isNull_ofScalar _

theorem isNull_filter (s : Store α) (p : Option Predicate) :
    ∀ a ∈ (s.filter p).arguments, a.isNull = false := by
  cases p with
  | none => exact fun a ha => by cases ha
  | some p =>
    intro a ha
    have hleaves : (s.filter (some p)).arguments = argumentsOfLeaves s.catalog p.leaves :=
      arguments_eq s.catalog p
    rw [hleaves, argumentsOfLeaves, List.mem_flatMap] at ha
    obtain ⟨l, -, hl⟩ := ha
    exact isNull_leafArguments s.catalog l a hl

theorem params_filter (s : Store α) (p : Option Predicate) :
    (s.filter p).condition.params.eraseDups = List.range' 1 (s.filter p).arguments.length := by
  cases p with
  | none => rfl
  | some p =>
    have hleaves : (s.filter (some p)).arguments = argumentsOfLeaves s.catalog p.leaves :=
      arguments_eq s.catalog p
    have hparams : (s.filter (some p)).condition.params = placeholders s.catalog 1 p.leaves :=
      params_test s.catalog p 1
    rw [hleaves, hparams, eraseDups_placeholders]

end Conditions

/-! ## Records -/

section Records

variable {a : Argument} {record : List Argument}

theorem Argument.eq_null (h : a.isNull = true) : a = .null := by
  cases a <;> first | rfl | cases h

theorem presentArguments_null : presentArguments (.null :: record) = presentArguments record := rfl

theorem presentArguments_cons (h : a.isNull = false) :
    presentArguments (a :: record) = a :: presentArguments record := by
  simp [presentArguments, h]

theorem cellsFrom_null (next : Nat) :
    cellsFrom next (.null :: record) = .null :: cellsFrom next record := rfl

theorem cellsFrom_cons (next : Nat) (h : a.isNull = false) :
    cellsFrom next (a :: record) = .param next :: cellsFrom (next + 1) record := by
  rw [cellsFrom, h, if_neg Bool.false_ne_true]

theorem filled_cellsFrom (next : Nat) (record : List Argument) :
    Filled next record ((cellsFrom next record).map Cell.token) (presentArguments record) := by
  induction record generalizing next with
  | nil => exact .nil next
  | cons a record ih =>
    cases h : a.isNull with
    | true =>
      rw [Argument.eq_null h]
      exact .null (ih next)
    | false =>
      rw [cellsFrom_cons next h, presentArguments_cons h]
      exact .value h (ih (next + 1))

/-- The values that are not null have the next numbers, in their order. -/
theorem params_cellsFrom (next : Nat) (record : List Argument) :
    (cellsFrom next record).filterMap Cell.index? =
      List.range' next (presentArguments record).length := by
  induction record generalizing next with
  | nil => rfl
  | cons a record ih =>
    cases h : a.isNull with
    | true =>
      rw [Argument.eq_null h, cellsFrom_null, presentArguments_null,
        List.filterMap_cons_none (show Cell.null.index? = none from rfl), ih]
    | false =>
      rw [cellsFrom_cons next h, presentArguments_cons h,
        List.filterMap_cons_some (show (Cell.param next).index? = some next from rfl), ih,
        List.length_cons, List.range'_succ]

theorem isNull_presentArguments (record : List Argument) :
    ∀ a ∈ presentArguments record, a.isNull = false := by
  intro a ha
  simpa using (List.mem_filter.1 ha).2

end Records

/-! ## Requests -/

section Requests

variable {s : Store α} {task : Task α}

/-- Every column that is assigned has its cell. -/
theorem assignments_map (pairs : List (String × Argument)) :
    ((pairs.map Prod.fst).zip (cellsFrom 1 (pairs.map Prod.snd))).map Prod.fst =
        pairs.map Prod.fst ∧
      ((pairs.map Prod.fst).zip (cellsFrom 1 (pairs.map Prod.snd))).map Prod.snd =
        cellsFrom 1 (pairs.map Prod.snd) := by
  have hlength : (pairs.map Prod.fst).length = (cellsFrom 1 (pairs.map Prod.snd)).length := by
    rw [length_cellsFrom, List.length_map, List.length_map]
  exact ⟨List.map_fst_zip hlength.le, List.map_snd_zip hlength.ge⟩

theorem wellNumbered_hasId {statement : Statement} (hwritten : ∀ text, statement ≠ .verbatim text)
    (hparams : statement.params = [1]) (id : String) :
    Request.WellNumbered ⟨statement, [.text id]⟩ := by
  refine Request.wellNumbered hwritten ?_ ?_
  · rw [hparams]
    rfl
  · rintro a (_ | ⟨_, ⟨⟩⟩)
    rfl

theorem wellNumbered_filter {statement : Statement}
    (hwritten : ∀ text, statement ≠ .verbatim text) (p : Option Predicate)
    (hparams : statement.params = (s.filter p).condition.params) :
    Request.WellNumbered ⟨statement, (s.filter p).arguments⟩ :=
  Request.wellNumbered hwritten (by rw [hparams, params_filter]) (isNull_filter s p)

theorem wellNumbered_page (s : Store α) (p : Option Predicate) (most skipped : Int64) :
    Request.WellNumbered ⟨s.selectWhere (s.filter p)
        (.page ((s.filter p).arguments.length + 1) ((s.filter p).arguments.length + 2)),
      (s.filter p).arguments ++ [.int most, .int skipped]⟩ := by
  refine Request.wellNumbered (fun text h => by cases h) ?_ ?_
  · rw [List.length_append]
    exact eraseDups_append_range (params_filter s p) 2
  · intro a ha
    rcases List.mem_append.1 ha with ha | ha
    · exact isNull_filter s p a ha
    · fin_cases ha <;> rfl

theorem params_insertRequest (table : String) (columns : List String) (record : List Argument) :
    (insertRequest table columns record).statement.params =
      List.range' 1 (insertRequest table columns record).arguments.length :=
  params_cellsFrom 1 record

theorem params_updateRequest (table : String) (columns : List String) (record : List Argument)
    (id : String) (expected : Int64) :
    (updateRequest table columns record id expected).statement.params =
      List.range' 1 (updateRequest table columns record id expected).arguments.length := by
  set pairs := assigned columns record with hpairs
  set present := presentArguments (pairs.map Prod.snd) with hpresent
  have hcells := params_cellsFrom 1 (pairs.map Prod.snd)
  rw [← (assignments_map pairs).2, List.filterMap_map] at hcells
  have hparams : (updateRequest table columns record id expected).statement.params =
      List.range' 1 present.length ++ List.range' (present.length + 1) 2 :=
    congrArg (· ++ [present.length + 1, present.length + 2]) hcells
  have hlength : (updateRequest table columns record id expected).arguments.length =
      present.length + 2 := by
    simp [updateRequest, ← hpairs, ← hpresent]
  rw [hparams, hlength, Nat.add_comm present.length 1, List.range'_append_1]

theorem wellNumbered_insertRequest (table : String) (columns : List String)
    (record : List Argument) : (insertRequest table columns record).WellNumbered := by
  refine Request.wellNumbered (fun text h => by cases h) ?_ (isNull_presentArguments record)
  rw [params_insertRequest]
  exact eraseDups_of_nodup List.nodup_range'

theorem wellNumbered_updateRequest (table : String) (columns : List String)
    (record : List Argument) (id : String) (expected : Int64) :
    (updateRequest table columns record id expected).WellNumbered := by
  refine Request.wellNumbered (fun text h => by cases h) ?_ ?_
  · rw [params_updateRequest]
    exact eraseDups_of_nodup List.nodup_range'
  · intro a ha
    rcases List.mem_append.1 ha with ha | ha
    · exact isNull_presentArguments _ a ha
    · fin_cases ha <;> rfl

theorem Task.Asks.wellNumbered {name : String} {q : Request} (h : task.Asks s name q) :
    q.WellNumbered := by
  cases h with
  | findById id => exact wellNumbered_hasId (fun text h => by cases h) rfl id
  | contains id => exact wellNumbered_hasId (fun text h => by cases h) rfl id
  | create hrecord => exact wellNumbered_insertRequest _ _ _
  | update hrecord => exact wellNumbered_updateRequest _ _ _ _ _
  | presence a => exact wellNumbered_hasId (fun text h => by cases h) rfl _
  | delete id => exact wellNumbered_hasId (fun text h => by cases h) rfl id
  | find p => exact wellNumbered_filter (fun text h => by cases h) p (List.append_nil _)
  | total p request => exact wellNumbered_filter (fun text h => by cases h) p rfl
  | page p request => exact wellNumbered_page s p _ _
  | findFirst p => exact wellNumbered_filter (fun text h => by cases h) p (List.append_nil _)
  | count p => exact wellNumbered_filter (fun text h => by cases h) p rfl
  | deleteWhere p => exact wellNumbered_filter (fun text h => by cases h) p rfl

theorem Task.Asks.shares {name : String} {q : Request} (h : task.Asks s name q) :
    task.Shares s q := by
  cases h with
  | create hrecord => exact ⟨_, _, rfl, hrecord, rfl, filled_cellsFrom 1 _⟩
  | @update a record hrecord =>
    set pairs := assigned s.mapper.columns record with hpairs
    have hfilled := filled_cellsFrom 1 (pairs.map Prod.snd)
    rw [← (assignments_map pairs).2, List.map_map] at hfilled
    exact ⟨a, record, _, rfl, hrecord, (assignments_map pairs).1, hfilled, rfl, rfl⟩
  | page p request => exact ⟨_, _, _, rfl, params_filter s p, rfl, rfl⟩
  | _ => exact trivial

/-- Whatever a store is asked for and whatever the replies, what it sends is well numbered. -/
theorem sent_wellNumbered (s : Store α) (task : Task α) (replies : List Reply) :
    ∀ q ∈ ((task.operation s).run replies).sent, q.WellNumbered ∧ task.Shares s q := by
  intro q hq
  obtain ⟨name, h⟩ := Operation.always_run (task.orderly_operation s).always replies q hq
  exact ⟨h.wellNumbered, h.shares⟩

/-- A store of documents with a name and, perhaps, an owner. -/
def ownedStore : Store Json := ⟨"sites", .byColumns ["id", "owner", "name"], .empty, 500⟩

/-- The document `{"id": "a", "name": "north"}`. -/
def unowned : Json := .object [("id", .text "a"), ("name", .text "north")]

/-- The owner that is missing takes no number from the name. -/
theorem sent_wellNumbered_unowned :
    let q := insertRequest "sites" ["id", "owner", "name"] [.text "a", .null, .text "north"]
    q ∈ (((Task.create unowned).operation ownedStore).run [.affected 1]).sent ∧
      q.WellNumbered ∧ (Task.create unowned).Shares ownedStore q := by
  intro q
  have hsent : q ∈ (((Task.create unowned).operation ownedStore).run [.affected 1]).sent :=
    List.mem_singleton.2 rfl
  exact ⟨hsent, sent_wellNumbered ownedStore _ _ q hsent⟩

end Requests

end Sieve
