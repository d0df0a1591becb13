import Mathlib
import Sieve.Proofs.Store.Calls

/-!
# Sieve.Proofs.Store.Interleaving

Any number of clients use one table at the same time. Each makes one call after the other; the
statements of different calls are executed in any order, every one on the table that it finds.

* `Step`, `Runs`: what a client or the database can do next, and runs of such steps with what was
  observed.
* `Runs.sound`: in every run all calls have come as far as their statements say.
* `Runs.linked`: the table after a run is what its statements have made of the first one.
* `Clients.moves`: no client has to wait for another one.
-/

namespace Sieve

open Sql Database

variable {α : Type}

/-- A call that is not answered yet. -/
structure Pending (α : Type) where
  call : Call α
  history : List Exchange
  rest : Operation (Answer α)

/-- The table, and the call that each client waits for. -/
structure Clients (α : Type) where
  rows : Rows
  pending : Nat → Option (Pending α)

/-- One client has come on, and the table may be another. -/
def Clients.put (σ : Clients α) (rows : Rows) (client : Nat) (p : Option (Pending α)) : Clients α :=
  ⟨rows, Function.update σ.pending client p⟩

theorem Clients.pending_put {σ : Clients α} {rows : Rows} {client other : Nat}
    {q : Option (Pending α)} {p : Pending α} :
    (σ.put rows client q).pending other = some p ↔
      (other = client ∧ q = some p) ∨ (other ≠ client ∧ σ.pending other = some p) := by
  by_cases h : other = client
  · subst h
    simp [put]
  · simp [put, h]

inductive Event (α : Type) where
  | called (client : Nat) (call : Call α)
  | executed (client : Nat) (call : Call α) (x : Exchange)
  | answered (client : Nat) (call : Call α) (history : List Exchange)
    (outcome : Except StoreError (Answer α))

/-- A client makes a call, the database executes a statement, or a client has its answer. -/
inductive Step (s : Store α) (db : Database) : Clients α → Event α → Clients α → Prop where
  | call {σ : Clients α} {client : Nat} {call : Call α} (idle : σ.pending client = none)
    (recorded : call.IsRecorded s) :
    Step s db σ (.called client call)
      (σ.put σ.rows client (some ⟨call, [], call.operation s⟩))
  | execute {σ : Clients α} {client : Nat} {call : Call α} {history : List Exchange} {x : Exchange}
    {next : Reply → Operation (Answer α)}
    (waiting : σ.pending client = some ⟨call, history, .send x.request next⟩)
    (here : x.before = σ.rows) (executed : x.IsBy db) :
    Step s db σ (.executed client call x)
      (σ.put x.after client (some ⟨call, history ++ [x], next x.reply⟩))
  | answer {σ : Clients α} {client : Nat} {call : Call α} {history : List Exchange}
    {outcome : Except StoreError (Answer α)}
    (finished : σ.pending client = some ⟨call, history, .done outcome⟩) :
    Step s db σ (.answered client call history outcome) (σ.put σ.rows client none)

inductive Runs (s : Store α) (db : Database) (σ : Clients α) :
    List (Event α) → Clients α → Prop where
  | nil : Runs s db σ [] σ
  | snoc {log : List (Event α)} {e : Event α} {σ' σ'' : Clients α} (run : Runs s db σ log σ')
    (step : Step s db σ' e σ'') : Runs s db σ (log ++ [e]) σ''

theorem Runs.cons {s : Store α} {db : Database} {σ σ' σ'' : Clients α} {e : Event α}
    {log : List (Event α)} (step : Step s db σ e σ') (run : Runs s db σ' log σ'') :
    Runs s db σ (e :: log) σ'' := by
  induction run with
  | nil => exact .snoc .nil step
  | snoc _ last ih => exact .snoc ih last

/-- Whatever a client waits for, it can come on. -/
theorem Clients.moves {σ : Clients α} {client : Nat} {p : Pending α}
    (s : Store α) (db : Database) (h : σ.pending client = some p) :
    ∃ e σ', Step s db σ e σ' ∧ σ'.pending client ≠ some p := by
  obtain ⟨call, history, rest⟩ := p
  cases rest with
  | done outcome => exact ⟨_, _, .answer h, by simp [put]⟩
  | send request next =>
    let x : Exchange := ⟨σ.rows, request, (db.execute σ.rows request).2,
      (db.execute σ.rows request).1⟩
    exact ⟨_, _, .execute (x := x) h rfl rfl, by simp [put]⟩

/-! ## How far calls have come -/

section Sound

variable {s : Store α} {db : Database} {σ σ' : Clients α} {log : List (Event α)} {e : Event α}

/-- A call has come so far, by statements of this client that were observed. -/
structure Came (s : Store α) (db : Database) (log : List (Event α)) (client : Nat)
    (call : Call α) (history : List Exchange) (rest : Operation (Answer α)) : Prop where
  recorded : call.IsRecorded s
  leads : (call.operation s).Leads db history rest
  observed : ∀ x ∈ history, Event.executed client call x ∈ log

theorem Came.mono {client : Nat} {call : Call α} {history : List Exchange}
    {rest : Operation (Answer α)} (h : Came s db log client call history rest) (e : Event α) :
    Came s db (log ++ [e]) client call history rest where
  recorded := h.recorded
  leads := h.leads
  observed x hx := List.mem_append_left _ (h.observed x hx)

/-- Calls have come as far as their statements say, and every statement has the effect of one of its
call. -/
structure Sound (s : Store α) (db : Database) (log : List (Event α)) (σ : Clients α) : Prop where
  pending : ∀ client p, σ.pending client = some p → Came s db log client p.call p.history p.rest
  executed : ∀ client call x, Event.executed client call x ∈ log → Effect s call x
  answered : ∀ client call history outcome, Event.answered client call history outcome ∈ log →
    Came s db log client call history (.done outcome)

theorem Sound.snoc (h : Sound s db log σ)
    (hpending : ∀ client p, σ'.pending client = some p →
      Came s db (log ++ [e]) client p.call p.history p.rest)
    (hexecuted : ∀ client call x, e = .executed client call x → Effect s call x)
    (hanswered : ∀ client call history outcome, e = .answered client call history outcome →
      Came s db (log ++ [e]) client call history (.done outcome)) :
    Sound s db (log ++ [e]) σ' where
  pending := hpending
  executed client call x hx := by
    rcases List.mem_append.1 hx with hx | hx
    · exact h.executed client call x hx
    · exact hexecuted client call x (List.mem_singleton.1 hx).symm
  answered client call history outcome ho := by
    rcases List.mem_append.1 ho with ho | ho
    · exact (h.answered client call history outcome ho).mono e
    · exact hanswered client call history outcome (List.mem_singleton.1 ho).symm

theorem Sound.step (h : Sound s db log σ) (hstep : Step s db σ e σ') :
    Sound s db (log ++ [e]) σ' := by
  cases hstep with
  | @call client call idle recorded =>
    refine h.snoc (fun other p hp => ?_) (by simp) (by simp)
    rcases Clients.pending_put.1 hp with ⟨rfl, hnew⟩ | ⟨-, hold⟩
    · cases hnew
      exact ⟨recorded, rfl, by simp⟩
    · exact (h.pending other p hold).mono _
  | @execute client call history x next waiting here executed =>
    have hcame := h.pending client _ waiting
    have hleads := hcame.leads.snoc executed
    refine h.snoc (fun other p hp => ?_) (fun other c y hy => ?_) (by simp)
    · rcases Clients.pending_put.1 hp with ⟨rfl, hnew⟩ | ⟨-, hold⟩
      · cases hnew
        refine ⟨hcame.recorded, hleads, fun y hy => ?_⟩
        rcases List.mem_append.1 hy with hy | hy
        · exact List.mem_append_left _ (hcame.observed y hy)
        · rw [List.mem_singleton.1 hy]
          exact List.mem_append_right _ (List.mem_singleton_self _)
      · exact (h.pending other p hold).mono _
    · cases hy
      exact effect_of_leads hcame.recorded hleads
  | @answer client call history outcome finished =>
    have hcame := h.pending client _ finished
    refine h.snoc (fun other p hp => ?_) (by simp) (fun other c past result ho => ?_)
    · rcases Clients.pending_put.1 hp with ⟨-, hnew⟩ | ⟨-, hold⟩
      · cases hnew
      · exact (h.pending other p hold).mono _
    · cases ho
      exact hcame.mono _

theorem Runs.sound (hrun : Runs s db σ log σ') (hidle : ∀ client, σ.pending client = none) :
    Sound s db log σ' := by
  induction hrun with
  | nil =>
    refine ⟨fun client p hp => ?_, by simp, by simp⟩
    rw [hidle client] at hp
    cases hp
  | snoc _ step ih => exact ih.step step

end Sound

/-! ## Statement after statement -/

section Linked

variable {s : Store α} {db : Database} {σ σ' : Clients α} {log : List (Event α)} {t t' : Rows}

def Event.exchange? : Event α → Option Exchange
  | .executed _ _ x => some x
  | _ => none

/-- Every statement finds the table that the one before has left. -/
def Linked : Rows → List Exchange → Rows → Prop
  | t, [], t' => t = t'
  | t, x :: rest, t' => x.before = t ∧ Linked x.after rest t'

theorem Linked.snoc {xs : List Exchange} {x : Exchange} (h : Linked t xs t')
    (hx : x.before = t') : Linked t (xs ++ [x]) x.after := by
  induction xs generalizing t with
  | nil => exact ⟨hx.trans h.symm, rfl⟩
  | cons y rest ih => exact ⟨h.1, ih h.2⟩

theorem Runs.linked (hrun : Runs s db σ log σ') :
    Linked σ.rows (log.filterMap Event.exchange?) σ'.rows := by
  induction hrun with
  | nil => rfl
  | snoc _ step ih =>
    rw [List.filterMap_append]
    cases step with
    | call => exact (List.append_nil _).symm ▸ ih
    | execute _ here => exact ih.snoc here
    | answer => exact (List.append_nil _).symm ▸ ih

end Linked

end Sieve
