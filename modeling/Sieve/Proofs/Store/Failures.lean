import Mathlib
import Sieve.Proofs.Store.Tasks

/-!
# Sieve.Proofs.Store.Failures

The first failure ends a task. A store goes through a list of tasks with one script of replies;
whatever the replies, no task sends anything after a reply that it does not understand, none comes
out well after one, and each takes as many replies as it sends requests: `runAll_session`.
-/

namespace Sieve

open Sql

variable {α β : Type}

/-- The error with which a request ends that is refused: a value that has to be unique and is not is
a conflict. -/
inductive Blames (table name : String) (id : Option String) : DatabaseFault → StoreError → Prop where
  | duplicate (message : String) :
      Blames table name id (.refused DatabaseFault.uniqueViolation message)
        (.duplicate name table message)
  | query {cause : DatabaseFault} :
      (∀ message, cause ≠ .refused DatabaseFault.uniqueViolation message) →
      Blames table name id cause (.query name table id cause)

/-- How a task goes: the requests with their replies, and the outcome. -/
structure Task.Goes (s : Store α) (task : Task α) (exchanged : List (Request × Reply))
    (outcome : Except StoreError (Task.Result α)) : Prop where
  atMostTwo : exchanged.length ≤ 2
  second : ∀ q reply next more, exchanged = (q, reply) :: next :: more → task.GoesOn s q reply
  /-- Nothing is written of an entity without a record that fits. -/
  unfit : ∀ a, task = .create a ∨ task = .update a →
    (∀ e, s.mapper.record a = .error e → exchanged = [] ∧ outcome = .error e) ∧
    ∀ record, s.mapper.record a = .ok record → record.length ≠ s.mapper.columns.length →
      exchanged = [] ∧
        outcome = .error (.recordLength s.table record.length s.mapper.columns.length)
  refused : ∀ before q reply after cause, exchanged = before ++ (q, reply) :: after →
    q.statement.refusal reply = some cause →
    after = [] ∧ ∃ name e, task.Asks s name q ∧ Blames s.table name (task.id? s) cause e ∧
      outcome = .error e
  answered : ∀ result, outcome = .ok result →
    ∀ q reply, (q, reply) ∈ exchanged → q.statement.refusal reply = none

namespace Store

/-- Does one task after the other, each with the replies that those before it left over. -/
def runAll (s : Store α) : List (Task α) → List Reply → List (Operation.Run (Task.Result α))
  | [], _ => []
  | task :: tasks, replies =>
    let r := (task.operation s).run replies
    r :: s.runAll tasks r.left

/-- Every task goes as it should, and takes a reply of the script for each of its requests. -/
inductive Session (s : Store α) :
    List (Task α) → List Reply → List (Operation.Run (Task.Result α)) → Prop where
  | nil (replies : List Reply) : Session s [] replies []
  | cons {task : Task α} {tasks : List (Task α)} {replies : List Reply}
      {run : Operation.Run (Task.Result α)} {runs : List (Operation.Run (Task.Result α))} :
      task.Goes s (Operation.exchanged run.sent replies) run.outcome →
      run.left = replies.drop run.sent.length →
      Session s tasks run.left runs →
      Session s (task :: tasks) replies (run :: runs)

end Store

/-! ## One operation -/

/-- An operation that asks for one statement after the other, with its replies: one that is refused
is the last, and the outcome says so. -/
inductive Stops (s : Store α) (id : Option String) (asks : String → Request → Prop)
    (goesOn : Request → Reply → Prop) :
    Nat → List (Request × Reply) → Except StoreError β → Prop where
  | nil (n : Nat) (outcome : Except StoreError β) : Stops s id asks goesOn n [] outcome
  | refused {n : Nat} {name : String} {q : Request} {reply : Reply} {cause : DatabaseFault} :
      asks name q → q.statement.refusal reply = some cause →
      Stops s id asks goesOn (n + 1) [(q, reply)] (.error (s.fault name id cause))
  | last {n : Nat} {q : Request} {reply : Reply} (outcome : Except StoreError β) :
      q.statement.refusal reply = none → Stops s id asks goesOn (n + 1) [(q, reply)] outcome
  | next {n : Nat} {q : Request} {reply : Reply} {exchanged : List (Request × Reply)}
      {outcome : Except StoreError β} :
      q.statement.refusal reply = none → goesOn q reply →
      Stops s id asks goesOn n exchanged outcome →
      Stops s id asks goesOn (n + 1) ((q, reply) :: exchanged) outcome

section Stops

variable {s : Store α} {id : Option String} {asks : String → Request → Prop}
  {goesOn : Request → Reply → Prop} {n : Nat} {exchanged : List (Request × Reply)}
  {outcome : Except StoreError β}

theorem Operation.IsDone.course {o : Operation β} (h : o.IsDone) (hc : o.Course exchanged outcome) :
    exchanged = [] := by
  obtain ⟨finished, rfl⟩ := h
  cases hc
  rfl

/-- A reply that is not understood ends an operation; after any other it goes on with what the reply
says. -/
theorem Store.course_asked {γ : Type} {name : String} {request : Request}
    {understand : Reply → Except DatabaseFault γ} {next : γ → Operation β}
    (hc : (s.asked name id request understand next).Course exchanged outcome) :
    (∃ reply cause, understand reply = .error cause ∧ exchanged = [(request, reply)] ∧
      outcome = .error (s.fault name id cause)) ∨
    ∃ reply c rest, understand reply = .ok c ∧ exchanged = (request, reply) :: rest ∧
      (next c).Course rest outcome := by
  cases hc with
  | @send _ _ reply rest _ hrest =>
    beta_reduce at hrest
    cases h : understand reply with
    | error cause =>
      rw [h] at hrest
      cases hrest
      exact .inl ⟨reply, cause, h, rfl, rfl⟩
    | ok c =>
      rw [h] at hrest
      exact .inr ⟨reply, c, rest, h, rfl, hrest⟩

theorem Orderly.stops {o : Operation β} (h : Orderly s id asks goesOn n o)
    (hc : o.Course exchanged outcome) : Stops s id asks goesOn n exchanged outcome := by
  induction h generalizing exchanged with
  | done n outcome =>
    cases hc
    exact .nil n _
  | asked hq hu hgoes _ ih =>
    rcases Store.course_asked hc with
      ⟨reply, cause, hreply, rfl, rfl⟩ | ⟨reply, b, rest, hreply, rfl, hrest⟩
    · exact .refused hq (by rw [hu, hreply])
    · have hnone := hu reply
      rw [hreply] at hnone
      rcases hgoes reply b hreply with hdone | hon
      · rw [hdone.course hrest]
        exact .last _ hnone
      · exact .next hnone hon (ih b hrest)

theorem Stops.length_le (h : Stops s id asks goesOn n exchanged outcome) :
    exchanged.length ≤ n := by
  induction h with
  | nil n outcome => exact Nat.zero_le n
  | refused _ _ => exact Nat.succ_le_succ (Nat.zero_le _)
  | last _ _ => exact Nat.succ_le_succ (Nat.zero_le _)
  | next _ _ _ ih => exact Nat.succ_le_succ ih

theorem Stops.of_next {q : Request} {reply : Reply} {next : Request × Reply}
    {more : List (Request × Reply)}
    (h : Stops s id asks goesOn n ((q, reply) :: next :: more) outcome) : goesOn q reply := by
  cases h with
  | next _ hon _ => exact hon

theorem eq_of_singleton {γ : Type} {x y : γ} {before after : List γ}
    (h : [x] = before ++ y :: after) : before = [] ∧ x = y ∧ after = [] := by
  cases before with
  | nil => simpa [eq_comm] using h
  | cons z before => cases before <;> cases h

/-- Nothing comes behind a reply that is not understood, and the outcome blames it. -/
theorem Stops.of_refused {before after : List (Request × Reply)} {q : Request} {reply : Reply}
    {cause : DatabaseFault} (h : Stops s id asks goesOn n exchanged outcome)
    (hexchanged : exchanged = before ++ (q, reply) :: after)
    (hrefused : q.statement.refusal reply = some cause) :
    after = [] ∧ ∃ name, asks name q ∧ outcome = .error (s.fault name id cause) := by
  -- Only the last exchange can be a refused one, and then nothing stands behind it.
  induction h generalizing before with
  | nil n outcome => cases before <;> cases hexchanged
  | @refused n name _ _ _ hq hcause =>
    obtain ⟨rfl, ⟨rfl, rfl⟩, rfl⟩ := eq_of_singleton hexchanged
    cases hcause.symm.trans hrefused
    exact ⟨rfl, name, hq, rfl⟩
  | last outcome hnone =>
    obtain ⟨rfl, ⟨rfl, rfl⟩, rfl⟩ := eq_of_singleton hexchanged
    cases hnone.symm.trans hrefused
  | next hnone _ _ ih =>
    cases before with
    | nil =>
      cases hexchanged
      cases hnone.symm.trans hrefused
    | cons x before =>
      rw [List.cons_append, List.cons.injEq] at hexchanged
      exact ih hexchanged.2

/-- What comes out well was never refused. -/
theorem Stops.of_ok {b : β} (h : Stops s id asks goesOn n exchanged (.ok b)) {q : Request}
    {reply : Reply} (hx : (q, reply) ∈ exchanged) : q.statement.refusal reply = none := by
  obtain ⟨before, after, hexchanged⟩ := List.append_of_mem hx
  cases hrefusal : q.statement.refusal reply with
  | none => rfl
  | some cause =>
    obtain ⟨-, name, -, houtcome⟩ := h.of_refused hexchanged hrefusal
    cases houtcome

end Stops

/-! ## Tasks -/

section Tasks

variable {s : Store α}

theorem Store.blames_fault (s : Store α) (name : String) (id : Option String)
    (cause : DatabaseFault) : Blames s.table name id cause (s.fault name id cause) := by
  cases cause with
  | refused code message =>
    by_cases hunique : code = DatabaseFault.uniqueViolation
    · rw [Store.fault, if_pos hunique, hunique]
      exact .duplicate message
    · rw [Store.fault, if_neg hunique]
      refine .query fun other h => hunique ?_
      cases h
      rfl
  | noRow => exact .query fun other h => by cases h
  | otherType => exact .query fun other h => by cases h

/-- A task to write an entity without a record that fits is done at once. -/
theorem Task.run_of_unfit {task : Task α} {a : α} (h : task = .create a ∨ task = .update a)
    {e : StoreError} (he : s.recordOf a = .error e) (replies : List Reply) :
    (task.operation s).run replies = ⟨.error e, [], replies⟩ := by
  rcases h with rfl | rfl
  · simp [Task.operation, Store.create, he, Operation.map, Operation.andThen, Operation.run]
  · simp [Task.operation, Store.update, he, Operation.map, Operation.andThen, Operation.run]

theorem Task.goes (s : Store α) (task : Task α) (replies : List Reply) :
    task.Goes s (Operation.exchanged ((task.operation s).run replies).sent replies)
      ((task.operation s).run replies).outcome := by
  have hcourse := Operation.course_run (task.operation s) replies
  have hstops := (task.orderly_operation s).stops hcourse
  refine ⟨hstops.length_le, ?_, ?_, ?_, ?_⟩
  · intro q reply next more hexchanged
    rw [hexchanged] at hstops
    exact hstops.of_next
  · intro a ha
    constructor
    · intro e he
      have hrecord : s.recordOf a = .error e := by rw [Store.recordOf, he]
      rw [run_of_unfit ha hrecord]
      exact ⟨rfl, rfl⟩
    · intro record he hlength
      have hrecord : s.recordOf a =
          .error (.recordLength s.table record.length s.mapper.columns.length) := by
        rw [Store.recordOf, he]
        exact if_neg hlength
      rw [run_of_unfit ha hrecord]
      exact ⟨rfl, rfl⟩
  · intro before q reply after cause hexchanged hrefused
    obtain ⟨hafter, name, hq, houtcome⟩ := hstops.of_refused hexchanged hrefused
    exact ⟨hafter, name, _, hq, s.blames_fault name _ cause, houtcome⟩
  · intro result hresult q reply hx
    rw [hresult] at hstops
    exact hstops.of_ok hx

/-- Whatever a store is asked for and whatever the replies, the first failure ends a task. -/
theorem Store.runAll_session (s : Store α) (tasks : List (Task α)) (replies : List Reply) :
    s.Session tasks replies (s.runAll tasks replies) := by
  induction tasks generalizing replies with
  | nil => exact .nil replies
  | cons task tasks ih =>
    exact .cons (task.goes s replies) (Operation.left_run _ replies) (ih _)

end Tasks

end Sieve
