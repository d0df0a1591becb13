import Mathlib
import Sieve.Proofs.Store.Rows

/-!
# Sieve.Proofs.Store.Queries

What a store reads from a table that does not change. The queries for a page ask how many rows
satisfy a condition, and for the part of them that a limit and an offset cut out, in the order of
their identities.

* `Operation.answered`: the outcome of an operation; `run_answered`: it is that of a run.
* `Database.answer`: the reply to a query.
* `matching_fulfils`: arguments after its own do not change which rows satisfy a condition.
* `Finds.fetch_eq`: the page that a store returns.
-/

namespace Sieve

open Sql

/-! ## Outcomes -/

namespace Operation

variable {α β : Type} (respond : Request → Reply)

/-- The outcome of an operation each of whose requests gets a reply. -/
def answered : Operation α → Except StoreError α
  | .done outcome => outcome
  | .send request next => answered (next (respond request))

theorem answered_andThen (o : Operation α) (f : α → Operation β) :
    (o.andThen f).answered respond =
      (o.answered respond).bind fun a => (f a).answered respond := by
  induction o with
  | done outcome => cases outcome <;> rfl
  | send request next ih => exact ih (respond request)

/-- It is the outcome of a run against the same replies. -/
theorem run_answered (o : Operation α) :
    ∃ replies, (o.run replies).outcome = o.answered respond ∧ (o.run replies).left = [] ∧
      (o.run replies).sent.map respond = replies := by
  induction o with
  | done outcome => exact ⟨[], rfl, rfl, rfl⟩
  | send request next ih =>
    obtain ⟨replies, houtcome, hleft, hsent⟩ := ih (respond request)
    refine ⟨respond request :: replies, ?_⟩
    rw [run_send]
    exact ⟨houtcome, hleft, by rw [List.map_cons, hsent]⟩

end Operation

/-! ## Queries -/

namespace Database

variable (db : Database)

/-- No row comes after one with a greater identity. -/
def inOrder (found : Entries Stored) : Entries Stored :=
  found.mergeSort fun e f => (db.engine.collate e.1 f.1).isLE

def presented (selection : Selection) (found : Entries Stored) : List Row :=
  found.map fun e => db.present selection e.1 e.2

/-- How many rows an argument means. -/
def amount? (arguments : List Argument) (index : Nat) : Option Nat :=
  match placed arguments index with
  | some (.int n) => if n.toInt < 0 then none else some n.toInt.toNat
  | _ => none

/-- The reply of a table to a request. The queries for the number of rows and for a page of them
are answered here. -/
def answer (t : Rows) (q : Request) : Reply :=
  match q.statement with
  | .count _ filter =>
    match db.matching q.arguments filter t.entries with
    | .ok found => if found.length < 2 ^ 63 then .int (.ofNat found.length) else outOfRange
    | .error _ => invalid
  | .select selection _ filter true (.page limit offset) =>
    match db.matching q.arguments filter t.entries, amount? q.arguments limit,
      amount? q.arguments offset with
    | .ok found, some most, some skipped =>
      .rows (((db.presented selection (db.inOrder found)).drop skipped).take most)
    | _, _, _ => invalid
  | _ => (db.execute t q).2

end Database

section Answers

open Database

variable {db : Database} {t : Rows} {arguments : List Argument} {filter : Expr}
  {found : Entries Stored}

/-- Every row that was found comes once. -/
theorem inOrder_perm (db : Database) (found : Entries Stored) : (db.inOrder found).Perm found :=
  List.mergeSort_perm found _

theorem length_presented (db : Database) (selection : Selection) (found : Entries Stored) :
    (db.presented selection (db.inOrder found)).length = found.length := by
  rw [presented, List.length_map, (inOrder_perm db found).length_eq]

theorem placed_of_placed (more : List Argument) {index : Nat} {a : Argument}
    (h : placed arguments index = some a) : placed (arguments ++ more) index = some a := by
  unfold placed at h ⊢
  by_cases hzero : index = 0
  · rw [if_pos hzero] at h
    cases h
  · rw [if_neg hzero] at h ⊢
    rw [List.getElem?_append_left (List.getElem?_eq_some_iff.1 h).1, h]

theorem fits_fulfils (more : List Argument) (id : String) (r : Stored) :
    Fulfils (db.fits (arguments ++ more) filter id r) (db.fits arguments filter id r) := by
  have heval : Fulfils (eval (db.env (arguments ++ more) id r) filter)
      (eval (db.env arguments id r) filter) :=
    eval_fulfils (fun _ _ => placed_of_placed more) filter
  exact heval.bind fun x => .refl _

theorem matching_fulfils (more : List Argument) (entries : Entries Stored) :
    Fulfils (db.matching (arguments ++ more) filter entries)
      (db.matching arguments filter entries) := by
  induction entries with
  | nil => exact .refl _
  | cons e rest ih =>
    obtain ⟨id, r⟩ := e
    exact (fits_fulfils more id r).bind fun fit => ih.bind fun others => .refl _

theorem answer_count (table : String) (h : db.matching arguments filter t.entries = .ok found)
    (hcount : found.length < 2 ^ 63) :
    db.answer t ⟨.count table filter, arguments⟩ = .int (.ofNat found.length) := by
  simp only [answer, h, if_pos hcount]

theorem amount?_toInt64 {index : Nat} {a : UInt64}
    (h : placed arguments index = some (.int (Saturating.toInt64 a))) :
    amount? arguments index = some (min a.toNat (2 ^ 63 - 1)) := by
  have hint : (Saturating.toInt64 a).toInt = (min a.toNat (2 ^ 63 - 1) : Nat) :=
    Int64.toInt_ofNat_of_lt (by omega)
  simp only [amount?, h, hint, Int.toNat_natCast]
  exact if_neg (by omega)

theorem drop_min {α : Type} {as : List α} {m : Nat} (h : as.length ≤ m) (n : Nat) :
    as.drop (min n m) = as.drop n := by
  by_cases hn : n ≤ m
  · rw [Nat.min_eq_left hn]
  · rw [List.drop_of_length_le (by omega), List.drop_of_length_le (by omega)]

theorem take_min {α : Type} {as : List α} {m : Nat} (h : as.length ≤ m) (n : Nat) :
    as.take (min n m) = as.take n := by
  rw [← List.take_take, List.take_of_length_le h]

/-- A limit and an offset that are cut to signed integers cut the rows as they would uncut. -/
theorem answer_page (selection : Selection) (table : String) (limit offset : UInt64)
    (h : db.matching arguments filter t.entries = .ok found) (hcount : found.length < 2 ^ 63) :
    db.answer t
      ⟨.select selection table filter true (.page (arguments.length + 1) (arguments.length + 2)),
        arguments ++ [.int (Saturating.toInt64 limit), .int (Saturating.toInt64 offset)]⟩ =
      .rows (((db.presented selection (db.inOrder found)).drop offset.toNat).take limit.toNat) := by
  set more : List Argument :=
    [.int (Saturating.toInt64 limit), .int (Saturating.toInt64 offset)] with hmore
  have hlimit : amount? (arguments ++ more) (arguments.length + 1) =
      some (min limit.toNat (2 ^ 63 - 1)) := amount?_toInt64 (by simp [placed, hmore])
  have hoffset : amount? (arguments ++ more) (arguments.length + 2) =
      some (min offset.toNat (2 ^ 63 - 1)) := amount?_toInt64 (by simp [placed, hmore])
  have hlength : (db.presented selection (db.inOrder found)).length ≤ 2 ^ 63 - 1 := by
    rw [length_presented]
    omega
  have hrest : ((db.presented selection (db.inOrder found)).drop offset.toNat).length ≤
      2 ^ 63 - 1 := by
    rw [List.length_drop]
    omega
  simp only [answer, matching_fulfils more _ _ h, hlimit, hoffset]
  rw [drop_min hlength, take_min hrest]

end Answers

/-! ## Pages -/

/-- The page of a list of rows that a request asks for. -/
def Page.window {α : Type} (rows : List α) (r : PageRequest) : Page α :=
  ⟨(rows.drop r.offset.toNat).take r.limit.toNat, .ofNat rows.length, r.offset, r.limit⟩

namespace Store

variable {α : Type} {s : Store α} {db : Database} {t : Rows} {p : Option Predicate}
  {found : Entries Stored} {rows : List α}

/-- The page of a request, counted and read from the same table. -/
def fetch (s : Store α) (db : Database) (t : Rows) (p : Option Predicate) (r : PageRequest) :
    Except StoreError (Page α) :=
  (s.findPage p r).answered (db.answer t)

/-- The rows that satisfy a predicate, and what a store reads of them in the order of their
identities. There are no more than can be counted. -/
structure Finds (s : Store α) (db : Database) (t : Rows) (p : Option Predicate)
    (found : Entries Stored) (rows : List α) : Prop where
  matching : db.matching (s.filter p).arguments (s.filter p).condition t.entries = .ok found
  read : s.readRows (db.presented (s.mapper.selection s.table) (db.inOrder found)) = .ok rows
  countable : found.length < 2 ^ 63

theorem readRows_eq_ok_iff {read : List Row} :
    s.readRows read = .ok rows ↔
      List.Forall₂ (fun row a => s.mapper.read row = .ok a) read rows := by
  induction read generalizing rows with
  | nil =>
    rw [readRows, Except.ok.injEq, List.forall₂_nil_left_iff]
    exact eq_comm
  | cons row read ih =>
    rw [List.forall₂_cons_left_iff, readRows]
    constructor
    · intro h
      cases hrow : s.mapper.read row with
      | error e =>
        rw [hrow] at h
        cases h
      | ok a =>
        cases hrest : s.readRows read with
        | error e =>
          rw [hrow, hrest] at h
          cases h
        | ok as =>
          rw [hrow, hrest] at h
          cases h
          exact ⟨a, as, rfl, ih.1 hrest, rfl⟩
    · rintro ⟨a, as, ha, has, rfl⟩
      rw [ha, ih.2 has]
      rfl

theorem Finds.length_eq (h : s.Finds db t p found rows) : rows.length = found.length := by
  rw [← length_presented db (s.mapper.selection s.table) found]
  exact (readRows_eq_ok_iff.1 h.read).length_eq.symm

theorem Finds.length_lt (h : s.Finds db t p found rows) : rows.length < 2 ^ 63 :=
  h.length_eq ▸ h.countable

theorem Finds.readRows_part (h : s.Finds db t p found rows) (skipped most : Nat) :
    s.readRows (((db.presented (s.mapper.selection s.table) (db.inOrder found)).drop skipped).take
      most) = .ok ((rows.drop skipped).take most) :=
  readRows_eq_ok_iff.2 (List.forall₂_take most (List.forall₂_drop skipped
    (readRows_eq_ok_iff.1 h.read)))

/-- A page has the rows from its offset on, as many as the limit within the bounds of the store
allows, and the number of all rows. -/
theorem Finds.fetch_eq (h : s.Finds db t p found rows) (r : PageRequest) :
    s.fetch db t p r = .ok (.window rows (r.clamped s.maxPageSize)) := by
  have hcount : (s.count p).answered (db.answer t) = .ok (.ofNat found.length) := by
    simp only [count, ask, Operation.answered, answer_count s.table h.matching h.countable]
    rfl
  have hpage := answer_page (s.mapper.selection s.table) s.table
    (r.clamped s.maxPageSize).limit (r.clamped s.maxPageSize).offset h.matching h.countable
  simp only [fetch, findPage, Operation.answered_andThen, hcount, Except.bind, ask,
    Operation.answered, selectWhere, hpage, Reply.rows?, Except.mapError, h.readRows_part,
    Except.map, Page.window, h.length_eq]

end Store

end Sieve
