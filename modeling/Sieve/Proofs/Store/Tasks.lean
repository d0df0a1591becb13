import Mathlib
import Sieve.Store

/-!
# Sieve.Proofs.Store.Tasks

What a store can be asked for, and how it goes about it. Every task asks for statements one after
the other, and goes on only with a reply that it understands.

* `Task`: what is asked for; `Task.operation`: the operation that does it.
* `Operation.Course`: requests with their replies, and the outcome; `course_run`: those of a run.
* `Operation.Always`: what every request is like that an operation can send; `always_run`.
* `Orderly`: one statement after the other; `Task.orderly_operation`: so goes every task, with the
  requests of `Task.Asks`, and with a second one only as in `Task.GoesOn`.
-/

namespace Sieve

open Sql

/-- What a store is asked for. Without a predicate every row is meant: all rows, a page of all rows,
how many rows there are. -/
inductive Task (α : Type) where
  | findById (id : String)
  | contains (id : String)
  | create (a : α)
  | update (a : α)
  | delete (id : String)
  | find (p : Option Predicate)
  | findPage (p : Option Predicate) (request : PageRequest)
  | findFirst (p : Option Predicate)
  | count (p : Option Predicate)
  | deleteWhere (p : Option Predicate)

inductive Task.Result (α : Type) where
  | done
  | truth (b : Bool)
  | version (v : Int64)
  | number (n : Int64)
  | deleted (count : Nat)
  | row (a : α)
  | row? (a : Option α)
  | rows (as : List α)
  | page (p : Page α)

variable {α β γ : Type}

namespace Task

def operation (s : Store α) : Task α → Operation (Result α)
  | .findById id => (s.findById id).map .row?
  | .contains id => (s.contains id).map .truth
  | .create a => (s.create a).map fun _ => .done
  | .update a => (s.update a).map .version
  | .delete id => (s.delete id).map fun _ => .done
  | .find p => (s.find p).map .rows
  | .findPage p request => (s.findPage p request).map .page
  | .findFirst p => (s.findFirst p).map .row
  | .count p => (s.count p).map .number
  | .deleteWhere p => (s.deleteWhere p).map .deleted

end Task

/-! ## Runs -/

namespace Operation

/-- Requests with their replies, in turn, and the outcome after the last reply. -/
inductive Course : Operation β → List (Request × Reply) → Except StoreError β → Prop where
  | done (outcome : Except StoreError β) : Course (.done outcome) [] outcome
  | send {request : Request} {next : Reply → Operation β} {reply : Reply}
      {exchanged : List (Request × Reply)} {outcome : Except StoreError β} :
      Course (next reply) exchanged outcome →
      Course (.send request next) ((request, reply) :: exchanged) outcome

def IsDone (o : Operation β) : Prop := ∃ outcome, o = .done outcome

theorem IsDone.map {o : Operation β} (f : β → γ) (h : o.IsDone) : (o.map f).IsDone := by
  obtain ⟨outcome, rfl⟩ := h
  cases outcome <;> exact ⟨_, rfl⟩

/-- Every request that an operation can send is as stated. -/
def Always (holds : Request → Prop) : Operation β → Prop
  | .done _ => True
  | .send request next => holds request ∧ ∀ reply, (next reply).Always holds

/-- Requests with their replies: those of the script, in turn, and refusals behind its end. -/
def exchanged (sent : List Request) (replies : List Reply) : List (Request × Reply) :=
  sent.mapIdx fun i q => (q, replies.getD i .unscripted)

theorem exchanged_cons (request : Request) (sent : List Request) (replies : List Reply) :
    exchanged (request :: sent) replies =
      (request, replies.headD .unscripted) :: exchanged sent replies.tail := by
  cases replies <;> simp [exchanged, List.mapIdx_cons]

theorem course_run (o : Operation β) (replies : List Reply) :
    o.Course (exchanged (o.run replies).sent replies) (o.run replies).outcome := by
  induction o generalizing replies with
  | done outcome => exact .done outcome
  | send request next ih =>
    rw [run, exchanged_cons]
    exact .send (ih _ _)

/-- A run takes one reply for each request. -/
theorem left_run (o : Operation β) (replies : List Reply) :
    (o.run replies).left = replies.drop (o.run replies).sent.length := by
  induction o generalizing replies with
  | done outcome => rfl
  | send request next ih => rw [run, ih, List.length_cons, List.drop_tail]

theorem always_run {holds : Request → Prop} {o : Operation β} (h : o.Always holds)
    (replies : List Reply) : ∀ q ∈ (o.run replies).sent, holds q := by
  induction o generalizing replies with
  | done outcome =>
    rintro q ⟨⟩
  | send request next ih =>
    intro q hq
    rw [run, List.mem_cons] at hq
    rcases hq with rfl | hq
    · exact h.1
    · exact ih _ (h.2 _) _ q hq

end Operation

/-! ## Statements one after the other -/

namespace Reply

/-- No row came. -/
def isEmpty : Reply → Bool
  | .rows [] => true
  | .affected _ => true
  | _ => false

end Reply

/-- What is wrong with a reply to a statement: it is a failure; no row came where a count or a check
needs one; or the first column is not of the type that a count, a check or an update returns. -/
def Sql.Statement.refusal : Statement → Reply → Option DatabaseFault
  | _, .failed code message => some (.refused code message)
  | .count _ _, .int _ => none
  | .existence _ _, .bool _ => none
  | .count _ _, reply => some (if reply.isEmpty then .noRow else .otherType)
  | .existence _ _, reply => some (if reply.isEmpty then .noRow else .otherType)
  | .update _ _ _, .int _ => none
  | .update _ _ _, reply => if reply.isEmpty then none else some .otherType
  | _, _ => none

/-- Replies to a statement are understood unless they are refused. -/
def Understands (statement : Statement) (understand : Reply → Except DatabaseFault β) : Prop :=
  ∀ reply, statement.refusal reply =
    match understand reply with
    | .error cause => some cause
    | .ok _ => none

namespace Store

/-- Sends a request and goes on with what its reply says; a reply that is not understood ends the
operation. -/
def asked (s : Store α) (operation : String) (id : Option String) (request : Request)
    (understand : Reply → Except DatabaseFault β) (next : β → Operation γ) : Operation γ :=
  .send request fun reply =>
    match understand reply with
    | .error cause => .done (.error (s.fault operation id cause))
    | .ok b => next b

variable {s : Store α} {name : String} {id : Option String} {request : Request}
  {understand : Reply → Except DatabaseFault β}

theorem ask_eq : s.ask name id request understand =
    s.asked name id request understand fun b => .done (.ok b) := by
  refine congrArg (Operation.send request) (funext fun reply => ?_)
  cases understand reply <;> simp [Except.mapError]

theorem asked_andThen {δ : Type} (next : β → Operation γ) (f : γ → Operation δ) :
    (s.asked name id request understand next).andThen f =
      s.asked name id request understand fun b => (next b).andThen f := by
  refine congrArg (Operation.send request) (funext fun reply => ?_)
  cases h : understand reply <;> simp [h, Operation.andThen]

theorem ask_andThen (f : β → Operation γ) :
    (s.ask name id request understand).andThen f = s.asked name id request understand f := by
  rw [ask_eq, asked_andThen]
  rfl

end Store

section Understands

variable {table : String} {filter : Expr}

theorem understands_count : Understands (.count table filter) (Store.required Reply.int?) := by
  rintro (rows | n | b | count | ⟨code, message⟩)
  · cases rows <;> rfl
  all_goals rfl

theorem understands_existence :
    Understands (.existence table filter) (Store.required Reply.bool?) := by
  rintro (rows | n | b | count | ⟨code, message⟩)
  · cases rows <;> rfl
  all_goals rfl

theorem understands_update {assignments : List (String × Cell)} :
    Understands (.update table assignments filter) Reply.int? := by
  rintro (rows | n | b | count | ⟨code, message⟩)
  · cases rows <;> rfl
  all_goals rfl

theorem understands_select {selection : Selection} {ordered : Bool} {extent : Extent} :
    Understands (.select selection table filter ordered extent) Reply.rows? := by
  rintro (rows | n | b | count | ⟨code, message⟩) <;> rfl

theorem understands_insert {columns : List String} {cells : List Cell} :
    Understands (.insert table columns cells) Reply.affected? := by
  rintro (rows | n | b | count | ⟨code, message⟩) <;> rfl

theorem understands_delete : Understands (.delete table filter) Reply.affected? := by
  rintro (rows | n | b | count | ⟨code, message⟩) <;> rfl

end Understands

/-- An operation asks for one statement after the other, for no more than a number of them, and ends
with a reply that it does not understand. After another reply it is done, or it goes on. -/
inductive Orderly (s : Store α) (id : Option String) (asks : String → Request → Prop)
    (goesOn : Request → Reply → Prop) : Nat → Operation γ → Prop where
  | done (n : Nat) (outcome : Except StoreError γ) : Orderly s id asks goesOn n (.done outcome)
  | asked {n : Nat} {β : Type} {name : String} {request : Request}
      {understand : Reply → Except DatabaseFault β} {next : β → Operation γ} :
      asks name request → Understands request.statement understand →
      (∀ reply b, understand reply = .ok b → (next b).IsDone ∨ goesOn request reply) →
      (∀ b, Orderly s id asks goesOn n (next b)) →
      Orderly s id asks goesOn (n + 1) (s.asked name id request understand next)

namespace Orderly

variable {s : Store α} {id : Option String} {asks : String → Request → Prop}
  {goesOn : Request → Reply → Prop} {n : Nat} {name : String} {request : Request}
  {understand : Reply → Except DatabaseFault β}

theorem map {o : Operation β} (f : β → γ) (h : Orderly s id asks goesOn n o) :
    Orderly s id asks goesOn n (o.map f) := by
  induction h with
  | done n outcome => cases outcome <;> exact .done n _
  | asked hq hu hnext _ ih =>
    rw [Operation.map, Store.asked_andThen]
    refine .asked hq hu (fun reply b hb => ?_) ih
    exact (hnext reply b hb).imp_left (Operation.IsDone.map f)

theorem andThen (hq : asks name request) (hu : Understands request.statement understand)
    {next : β → Operation γ}
    (hgoes : ∀ reply b, understand reply = .ok b → (next b).IsDone ∨ goesOn request reply)
    (hnext : ∀ b, Orderly s id asks goesOn n (next b)) :
    Orderly s id asks goesOn (n + 1) ((s.ask name id request understand).andThen next) := by
  rw [Store.ask_andThen]
  exact .asked hq hu hgoes hnext

/-- With the last statement an operation is done. -/
theorem last (hq : asks name request) (hu : Understands request.statement understand)
    {next : β → Operation γ} (hdone : ∀ b, (next b).IsDone) :
    Orderly s id asks goesOn (n + 1) ((s.ask name id request understand).andThen next) := by
  refine andThen hq hu (fun _ b _ => .inl (hdone b)) fun b => ?_
  obtain ⟨outcome, hb⟩ := hdone b
  rw [hb]
  exact .done n outcome

theorem ask (hq : asks name request) (hu : Understands request.statement understand) :
    Orderly s id asks goesOn (n + 1) (s.ask name id request understand) := by
  rw [Store.ask_eq]
  exact .asked hq hu (fun _ _ _ => .inl ⟨_, rfl⟩) fun b => .done n _

theorem always {o : Operation γ} (h : Orderly s id asks goesOn n o) :
    o.Always fun q => ∃ name, asks name q := by
  induction h with
  | done n outcome => exact trivial
  | @asked n β name request understand next hq hu _ _ ih =>
    refine ⟨⟨name, hq⟩, fun reply => ?_⟩
    beta_reduce
    cases understand reply with
    | error cause => exact trivial
    | ok b => exact ih b

end Orderly

/-! ## Tasks -/

namespace Task

/-- The identity of the row that a task is about, if it is about one. -/
def id? (s : Store α) : Task α → Option String
  | .findById id => some id
  | .contains id => some id
  | .create a => some (s.mapper.idOf a)
  | .update a => some (s.mapper.idOf a)
  | .delete id => some id
  | _ => none

/-- The requests of a task, and what they are called in an error. -/
inductive Asks (s : Store α) : Task α → String → Request → Prop where
  | findById (id : String) : Asks s (.findById id) "find_by_id"
      ⟨.select (s.mapper.selection s.table) s.table (hasId 1) false .all, [.text id]⟩
  | contains (id : String) :
      Asks s (.contains id) "exists" ⟨.existence s.table (hasId 1), [.text id]⟩
  | create {a : α} {record : List Argument} : s.recordOf a = .ok record →
      Asks s (.create a) "create" (insertRequest s.table s.mapper.columns record)
  | update {a : α} {record : List Argument} : s.recordOf a = .ok record →
      Asks s (.update a) "update" (updateRequest s.table s.mapper.columns record (s.mapper.idOf a)
        (s.mapper.versionOf a))
  | presence (a : α) :
      Asks s (.update a) "exists" ⟨.existence s.table (hasId 1), [.text (s.mapper.idOf a)]⟩
  | delete (id : String) : Asks s (.delete id) "delete" ⟨.delete s.table (hasId 1), [.text id]⟩
  | find (p : Option Predicate) : Asks s (.find p) "find_by_predicate"
      ⟨s.selectWhere (s.filter p) .all, (s.filter p).arguments⟩
  | total (p : Option Predicate) (request : PageRequest) :
      Asks s (.findPage p request) "count_by_predicate"
        ⟨.count s.table (s.filter p).condition, (s.filter p).arguments⟩
  | page (p : Option Predicate) (request : PageRequest) :
      Asks s (.findPage p request) "find_by_predicate_paginated"
        ⟨s.selectWhere (s.filter p)
            (.page ((s.filter p).arguments.length + 1) ((s.filter p).arguments.length + 2)),
          (s.filter p).arguments ++
            [.int (Saturating.toInt64 (request.clamped s.maxPageSize).limit),
              .int (Saturating.toInt64 (request.clamped s.maxPageSize).offset)]⟩
  | findFirst (p : Option Predicate) : Asks s (.findFirst p) "find_first_by_predicate"
      ⟨s.selectWhere (s.filter p) .first, (s.filter p).arguments⟩
  | count (p : Option Predicate) : Asks s (.count p) "count_by_predicate"
      ⟨.count s.table (s.filter p).condition, (s.filter p).arguments⟩
  | deleteWhere (p : Option Predicate) : Asks s (.deleteWhere p) "delete_by_predicate"
      ⟨.delete s.table (s.filter p).condition, (s.filter p).arguments⟩

/-- A second statement follows: the rows of a page after their number, and the question whether the
row exists after an update that no row came of. -/
inductive GoesOn (s : Store α) : Task α → Request → Reply → Prop where
  | page {p : Option Predicate} {request : PageRequest} {q : Request} (n : Int64) :
      Asks s (.findPage p request) "count_by_predicate" q →
      GoesOn s (.findPage p request) q (.int n)
  | update {a : α} {q : Request} {reply : Reply} :
      Asks s (.update a) "update" q → reply.isEmpty = true → GoesOn s (.update a) q reply

theorem eq_int_of_required {reply : Reply} {n : Int64}
    (h : Store.required Reply.int? reply = .ok n) : reply = .int n := by
  rcases reply with (_ | _) | _ | _ | _ | _ <;> cases h
  rfl

theorem isEmpty_of_int? {reply : Reply} (h : reply.int? = .ok none) : reply.isEmpty = true := by
  rcases reply with (_ | _) | _ | _ | _ | _ <;> cases h <;> rfl

theorem orderly_operation (s : Store α) (task : Task α) :
    Orderly s (task.id? s) (task.Asks s) (task.GoesOn s) 2 (task.operation s) := by
  cases task with
  | findById id => exact .map _ (.last (.findById id) understands_select fun _ => ⟨_, rfl⟩)
  | contains id => exact .map _ (.ask (.contains id) understands_existence)
  | create a =>
    refine .map _ ?_
    unfold Store.create
    cases hrecord : s.recordOf a with
    | error e => exact .done _ _
    | ok record => exact .map _ (.ask (.create hrecord) understands_insert)
  | update a =>
    refine .map _ ?_
    unfold Store.update
    cases hrecord : s.recordOf a with
    | error e => exact .done _ _
    | ok record =>
      refine .andThen (.update hrecord) understands_update (fun reply version h => ?_)
        fun version => ?_
      · cases version with
        | some v => exact .inl ⟨_, rfl⟩
        | none => exact .inr (.update (.update hrecord) (isEmpty_of_int? h))
      · cases version with
        | some v => exact .done _ _
        | none => exact .last (.presence a) understands_existence fun _ => ⟨_, rfl⟩
  | delete id => exact .map _ (.last (.delete id) understands_delete fun _ => ⟨_, rfl⟩)
  | find p => exact .map _ (.last (.find p) understands_select fun _ => ⟨_, rfl⟩)
  | findPage p request =>
    refine .map _ (.andThen (.total p request) understands_count (fun reply n h => .inr ?_)
      fun n => .last (.page p request) understands_select fun _ => ⟨_, rfl⟩)
    rw [eq_int_of_required h]
    exact .page n (.total p request)
  | findFirst p =>
    refine .map _ (.last (.findFirst p) understands_select fun rows => ?_)
    rcases s.readRow? rows with e | (_ | a) <;> exact ⟨_, rfl⟩
  | count p => exact .map _ (.ask (.count p) understands_count)
  | deleteWhere p => exact .map _ (.last (.deleteWhere p) understands_delete fun _ => ⟨_, rfl⟩)

end Task

end Sieve
