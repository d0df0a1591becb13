import Mathlib
import Sieve.Proofs.Store.Rows

/-!
# Sieve.Proofs.Store.Calls

What the calls of a client come to, statement by statement, whatever happens to the table in
between.

* `Operation.Leads`: the statements of an operation that were executed, and what is left of it.
* `createStage`, `updateStage`, `findStage`, `deleteStage`: how far a call can have come, and what
  its statements have done.
* `effect_of_leads`: a statement changes nothing, or adds a row, writes a row or deletes it.
* `createAnswer`, `updateAnswer`: what an answer says of the table that the statements have met.
-/

namespace Sieve

open Sql Database

variable {α β : Type}

/-- What a client asks of a store. -/
inductive Call (α : Type) where
  | create (a : α)
  | update (a : α)
  | find (id : String)
  | delete (id : String)

inductive Answer (α : Type) where
  | created
  | updated (version : Int64)
  | found (a : Option α)
  | deleted

/-- A statement that was executed, with the table before and after it. -/
structure Exchange where
  before : Rows
  request : Request
  reply : Reply
  after : Rows

namespace Exchange

/-- The database has executed the statement. -/
def IsBy (db : Database) (x : Exchange) : Prop :=
  db.execute x.before x.request = (x.after, x.reply)

end Exchange

/-- An operation has had statements executed, and this is left of it. -/
def Operation.Leads (db : Database) : Operation β → List Exchange → Operation β → Prop
  | o, [], o' => o = o'
  | o, x :: rest, o' =>
    ∃ next, o = .send x.request next ∧ x.IsBy db ∧ Leads db (next x.reply) rest o'

theorem Operation.Leads.snoc {db : Database} {o : Operation β} {history : List Exchange}
    {x : Exchange} {next : Reply → Operation β}
    (h : o.Leads db history (.send x.request next)) (hx : x.IsBy db) :
    o.Leads db (history ++ [x]) (next x.reply) := by
  induction history generalizing o with
  | nil => exact ⟨next, h, hx, rfl⟩
  | cons y rest ih =>
    obtain ⟨between, ho, hy, hrest⟩ := h
    exact ⟨between, ho, hy, ih hrest⟩

theorem Operation.Leads.of_done {db : Database} {outcome : Except StoreError β}
    {history : List Exchange} {o : Operation β}
    (h : (Operation.done outcome).Leads db history o) : history = [] ∧ o = .done outcome := by
  cases history with
  | nil => exact ⟨rfl, h.symm⟩
  | cons x rest =>
    obtain ⟨next, hstop, -⟩ := h
    cases hstop

theorem Operation.Leads.of_send {db : Database} {q : Request} {next : Reply → Operation β}
    {x : Exchange} {rest : List Exchange} {o : Operation β}
    (h : (Operation.send q next).Leads db (x :: rest) o) :
    x.request = q ∧ x.IsBy db ∧ (next x.reply).Leads db rest o := by
  obtain ⟨next', ho, hx, hrest⟩ := h
  cases ho
  exact ⟨rfl, hx, hrest⟩

/-- The record of an entity has a value for each column, and the identity and the version in
theirs. -/
def Store.Records (s : Store α) (a : α) (record : List Argument) : Prop :=
  s.mapper.record a = .ok record ∧
    Describes s.mapper.columns record (s.mapper.idOf a) (s.mapper.versionOf a)

/-- The statement that writes an entity over its row. -/
def Store.overwriting (s : Store α) (a : α) (record : List Argument) : Request :=
  updateRequest s.table s.mapper.columns record (s.mapper.idOf a) (s.mapper.versionOf a)

/-- The statement that asks whether there is a row with an identity. -/
def Store.presence (s : Store α) (id : String) : Request :=
  ⟨.existence s.table (hasId 1), [.text id]⟩

namespace Call

variable (s : Store α)

def operation : Call α → Operation (Answer α)
  | .create a => (s.create a).map fun _ => .created
  | .update a => (s.update a).map .updated
  | .find id => (s.findById id).map .found
  | .delete id => (s.delete id).map fun _ => .deleted

/-- The identity of the row that a call means. -/
def target : Call α → String
  | .create a => s.mapper.idOf a
  | .update a => s.mapper.idOf a
  | .find id => id
  | .delete id => id

/-- Whatever is written has a record. -/
def IsRecorded : Call α → Prop
  | .create a => ∃ record, s.Records a record
  | .update a => ∃ record, s.Records a record
  | _ => True

end Call

section Stages

variable {s : Store α} {db : Database} {a : α} {record : List Argument} {id : String}
  {history : List Exchange} {o : Operation (Answer α)}

theorem recordOf_eq (h : s.Records a record) : s.recordOf a = .ok record := by
  unfold Store.recordOf
  rw [h.1]
  exact if_pos h.2.length

/-- A row as an entity leaves it. -/
def writtenOver (s : Store α) (a : α) (record : List Argument) (cells : String → Argument) :
    Stored :=
  ⟨s.mapper.versionOf a + 1, overwrite cells (assigned s.mapper.columns record)⟩

/-- A row as an entity makes it. -/
def written (s : Store α) (a : α) (record : List Argument) : Stored :=
  ⟨s.mapper.versionOf a, overwrite (fun _ => .null) (assigned s.mapper.columns record)⟩

/-- How far a create has come. -/
inductive CreateStage (s : Store α) (a : α) (record : List Argument) :
    List Exchange → Operation (Answer α) → Prop where
  | asked : CreateStage s a record [] (Call.operation s (.create a))
  | created {x : Exchange} (free : x.before.get? (s.mapper.idOf a) = none)
    (after : x.after = x.before.insert (s.mapper.idOf a) (written s a record)) :
    CreateStage s a record [x] (.done (.ok .created))
  | taken {x : Exchange} {r : Stored} {message : String}
    (row : x.before.get? (s.mapper.idOf a) = some r) (after : x.after = x.before) :
    CreateStage s a record [x] (.done (.error (.duplicate "create" s.table message)))

/-- How far an update has come: its statement has met the row with the version that it expects, with
or without another version to give, or has not and is followed by the question whether there is a
row. -/
inductive UpdateStage (s : Store α) (a : α) (record : List Argument) :
    List Exchange → Operation (Answer α) → Prop where
  | asked : UpdateStage s a record [] (Call.operation s (.update a))
  | hit {x : Exchange} {r : Stored} (request : x.request = s.overwriting a record)
    (row : x.before.get? (s.mapper.idOf a) = some r)
    (version : r.version = s.mapper.versionOf a) (small : r.version ≠ Int64.maxValue)
    (after : x.after = x.before.insert (s.mapper.idOf a) (writtenOver s a record r.cells)) :
    UpdateStage s a record [x] (.done (.ok (.updated (s.mapper.versionOf a + 1))))
  | greatest {x : Exchange} {r : Stored} {e : StoreError}
    (request : x.request = s.overwriting a record)
    (row : x.before.get? (s.mapper.idOf a) = some r) (version : r.version = s.mapper.versionOf a)
    (great : r.version = Int64.maxValue) (after : x.after = x.before) :
    UpdateStage s a record [x] (.done (.error e))
  | missed {x : Exchange} {next : Reply → Operation (Answer α)}
    (request : x.request = s.overwriting a record)
    (miss : ∀ r, x.before.get? (s.mapper.idOf a) = some r → r.version ≠ s.mapper.versionOf a)
    (after : x.after = x.before) :
    UpdateStage s a record [x] (.send (s.presence (s.mapper.idOf a)) next)
  | told {x y : Exchange} (request : x.request = s.overwriting a record)
    (miss : ∀ r, x.before.get? (s.mapper.idOf a) = some r → r.version ≠ s.mapper.versionOf a)
    (after : x.after = x.before) (question : y.request = s.presence (s.mapper.idOf a))
    (unchanged : y.after = y.before) :
    UpdateStage s a record [x, y] (.done (.error
      (if (y.before.get? (s.mapper.idOf a)).isSome then
        .staleVersion s.table (s.mapper.idOf a) (s.mapper.versionOf a)
      else .noSuchId s.table (s.mapper.idOf a))))

/-- How far a search for an identity has come. -/
inductive FindStage (s : Store α) (db : Database) (id : String) :
    List Exchange → Operation (Answer α) → Prop where
  | asked : FindStage s db id [] (Call.operation s (.find id))
  | done {x : Exchange} (after : x.after = x.before) :
    FindStage s db id [x] (.done ((s.readRow? ((x.before.get? id).toList.map
      (db.present (s.mapper.selection s.table) id))).map .found))

/-- How far a deletion has come. -/
inductive DeleteStage (s : Store α) (id : String) :
    List Exchange → Operation (Answer α) → Prop where
  | asked : DeleteStage s id [] (Call.operation s (.delete id))
  | done {x : Exchange} {outcome : Except StoreError (Answer α)}
    (gone : x.after.get? id = none)
    (others : ∀ key, key ≠ id → x.after.get? key = x.before.get? key)
    (failed : ∀ e, outcome = .error e → x.after = x.before) :
    DeleteStage s id [x] (.done outcome)

/-- An operation of one statement has had it executed, or not. -/
theorem leads_single {q : Request} {next : Reply → Operation β} {o o' : Operation β}
    (hsend : o = .send q next) (hdone : ∀ reply, ∃ outcome, next reply = .done outcome)
    (h : o.Leads db history o') :
    (history = [] ∧ o = o') ∨
      ∃ x, history = [x] ∧ x.request = q ∧ x.IsBy db ∧ o' = next x.reply := by
  cases history with
  | nil => exact .inl ⟨rfl, h⟩
  | cons x rest =>
    rw [hsend] at h
    obtain ⟨hq, hx, hrest⟩ := h.of_send
    obtain ⟨outcome, houtcome⟩ := hdone x.reply
    rw [houtcome] at hrest
    obtain ⟨rfl, rfl⟩ := hrest.of_done
    exact .inr ⟨x, rfl, hq, hx, houtcome.symm⟩

/-- How a creation goes on with the reply to its statement. -/
def afterCreate (s : Store α) (a : α) (reply : Reply) : Operation (Answer α) :=
  .done ((reply.affected?.mapError (s.fault "create" (some (s.mapper.idOf a)))).map fun _ =>
    .created)

theorem operation_create (hrecord : s.Records a record) :
    Call.operation s (.create a) =
      .send (insertRequest s.table s.mapper.columns record) (afterCreate s a) := by
  rw [Call.operation, Store.create, recordOf_eq hrecord]
  exact congrArg (Operation.send _) (funext fun reply => by cases reply <;> rfl)

theorem createStage (hrecord : s.Records a record)
    (h : (Call.operation s (.create a)).Leads db history o) : CreateStage s a record history o := by
  obtain ⟨rfl, rfl⟩ | ⟨x, rfl, hq, hx, rfl⟩ :=
    leads_single (operation_create hrecord) (fun reply => ⟨_, rfl⟩) h
  · exact .asked
  · unfold Exchange.IsBy at hx
    rw [hq, execute_insert hrecord.2] at hx
    cases hrow : x.before.get? (s.mapper.idOf a) with
    | none =>
      rw [hrow] at hx
      obtain ⟨hafter, hreply⟩ := Prod.mk.inj hx
      rw [← hreply]
      exact .created hrow hafter.symm
    | some r =>
      rw [hrow] at hx
      obtain ⟨hafter, hreply⟩ := Prod.mk.inj hx
      rw [← hreply]
      exact .taken hrow hafter.symm

/-- What an update asks after its statement has met no row. -/
def askPresent (s : Store α) (a : α) : Operation (Answer α) :=
  ((s.contains (s.mapper.idOf a)).andThen fun present =>
    .done (.error
      (if present then .staleVersion s.table (s.mapper.idOf a) (s.mapper.versionOf a)
      else .noSuchId s.table (s.mapper.idOf a)))).map .updated

/-- How an update goes on with the reply to its statement. -/
def afterUpdate (s : Store α) (a : α) (reply : Reply) : Operation (Answer α) :=
  match reply.int?.mapError (s.fault "update" (some (s.mapper.idOf a))) with
  | .ok (some version) => .done (.ok (.updated version))
  | .ok none => askPresent s a
  | .error e => .done (.error e)

theorem operation_update (hrecord : s.Records a record) :
    Call.operation s (.update a) = .send (s.overwriting a record) (afterUpdate s a) := by
  rw [Call.operation, Store.update, recordOf_eq hrecord]
  refine congrArg (Operation.send _) (funext fun reply => ?_)
  cases reply with
  | rows rows => cases rows <;> rfl
  | _ => rfl

theorem updateStage (hrecord : s.Records a record)
    (h : (Call.operation s (.update a)).Leads db history o) : UpdateStage s a record history o := by
  cases history with
  | nil =>
    cases h
    exact .asked
  | cons x rest =>
    rw [operation_update hrecord] at h
    obtain ⟨hq, hx, hrest⟩ := h.of_send
    unfold Exchange.IsBy at hx
    rw [hq, Store.overwriting, execute_update] at hx
    cases hrow : (x.before.get? (s.mapper.idOf a)).filter
        fun r => r.version == s.mapper.versionOf a with
    | some r =>
      obtain ⟨hget, hversion⟩ := Option.filter_eq_some_iff.1 hrow
      rw [beq_iff_eq] at hversion
      rw [hrow] at hx
      simp only at hx
      by_cases hmax : s.mapper.versionOf a = Int64.maxValue
      · rw [if_pos hmax] at hx
        obtain ⟨hafter, hreply⟩ := Prod.mk.inj hx
        rw [← hreply] at hrest
        obtain ⟨rfl, rfl⟩ := Operation.Leads.of_done hrest
        exact .greatest hq hget hversion (hversion.trans hmax) hafter.symm
      · rw [if_neg hmax] at hx
        obtain ⟨hafter, hreply⟩ := Prod.mk.inj hx
        rw [← hreply] at hrest
        obtain ⟨rfl, rfl⟩ := Operation.Leads.of_done hrest
        exact .hit hq hget hversion (hversion ▸ hmax) hafter.symm
    | none =>
      have hmiss : ∀ r, x.before.get? (s.mapper.idOf a) = some r →
          r.version ≠ s.mapper.versionOf a := by
        intro r hr hversion
        rw [hr] at hrow
        simp [Option.filter, hversion] at hrow
      rw [hrow] at hx
      obtain ⟨hafter, hreply⟩ := Prod.mk.inj hx
      rw [← hreply] at hrest
      cases rest with
      | nil =>
        cases hrest
        exact .missed hq hmiss hafter.symm
      | cons y more =>
        obtain ⟨hq', hy, hmore⟩ := Operation.Leads.of_send hrest
        unfold Exchange.IsBy at hy
        rw [hq', execute_existence] at hy
        obtain ⟨hunchanged, hreply⟩ := Prod.mk.inj hy
        rw [← hreply] at hmore
        obtain ⟨rfl, rfl⟩ := Operation.Leads.of_done hmore
        exact .told hq hmiss hafter.symm hq' hunchanged.symm

theorem map_done {γ : Type} (f : β → γ) (outcome : Except StoreError β) :
    (Operation.done outcome).map f = .done (outcome.map f) := by
  cases outcome <;> rfl

theorem andThen_done {γ : Type} (f : β → Except StoreError γ) (outcome : Except StoreError β) :
    (Operation.done outcome).andThen (fun b => .done (f b)) = .done (outcome.bind f) := by
  cases outcome <;> rfl

/-- How a search goes on with the reply to its statement. -/
def afterFind (s : Store α) (id : String) (reply : Reply) : Operation (Answer α) :=
  .done (((reply.rows?.mapError (s.fault "find_by_id" (some id))).bind s.readRow?).map .found)

theorem operation_find :
    Call.operation s (.find id) =
      .send ⟨.select (s.mapper.selection s.table) s.table (hasId 1) false .all, [.text id]⟩
        (afterFind s id) := by
  refine congrArg (Operation.send _) (funext fun reply => ?_)
  rw [afterFind, ← map_done, ← andThen_done]
  rfl

theorem findStage (h : (Call.operation s (.find id)).Leads db history o) :
    FindStage s db id history o := by
  obtain ⟨rfl, rfl⟩ | ⟨x, rfl, hq, hx, rfl⟩ :=
    leads_single operation_find (fun reply => ⟨_, rfl⟩) h
  · exact .asked
  · unfold Exchange.IsBy at hx
    rw [hq, execute_select] at hx
    obtain ⟨hafter, hreply⟩ := Prod.mk.inj hx
    rw [← hreply]
    exact .done hafter.symm

/-- How a deletion goes on with the reply to its statement. -/
def afterDelete (s : Store α) (id : String) (reply : Reply) : Operation (Answer α) :=
  .done (((reply.affected?.mapError (s.fault "delete" (some id))).bind fun count =>
    if count = 0 then .error (.noSuchId s.table id) else .ok ()).map fun _ => .deleted)

theorem operation_delete :
    Call.operation s (.delete id) =
      .send ⟨.delete s.table (hasId 1), [.text id]⟩ (afterDelete s id) := by
  refine congrArg (Operation.send _) (funext fun reply => ?_)
  rw [afterDelete, ← map_done, ← andThen_done]
  rfl

theorem deleteStage (h : (Call.operation s (.delete id)).Leads db history o) :
    DeleteStage s id history o := by
  obtain ⟨rfl, rfl⟩ | ⟨x, rfl, hq, hx, rfl⟩ :=
    leads_single operation_delete (fun reply => ⟨_, rfl⟩) h
  · exact .asked
  · unfold Exchange.IsBy at hx
    rw [hq, execute_delete] at hx
    obtain ⟨hafter, hreply⟩ := Prod.mk.inj hx
    refine .done ?_ (fun key hkey => ?_) fun e he => ?_
    · rw [← hafter, get?_without]
      cases x.before.get? id with
      | none => exact ite_self none
      | some r => simp
    · rw [← hafter, get?_without]
      cases x.before.get? id with
      | none => rfl
      | some r => simp [Ne.symm hkey]
    · cases hrow : x.before.get? id with
      | none =>
        rw [← hafter, hrow]
        refine Dict.ext fun key => ?_
        rw [get?_without]
        rfl
      | some r =>
        rw [← hreply, hrow] at he
        cases he

/-- A statement of a call changes nothing, or adds the row of an entity, or writes an entity over
the row with the version that it expects, or deletes a row. -/
inductive Effect (s : Store α) (call : Call α) (x : Exchange) : Prop where
  | nothing (after : x.after = x.before)
  | added {a : α} {record : List Argument} (hcall : call = .create a)
    (free : x.before.get? (s.mapper.idOf a) = none)
    (after : x.after = x.before.insert (s.mapper.idOf a) (written s a record))
  | overwritten {a : α} {record : List Argument} {r : Stored} (hcall : call = .update a)
    (row : x.before.get? (s.mapper.idOf a) = some r) (version : r.version = s.mapper.versionOf a)
    (small : r.version ≠ Int64.maxValue)
    (after : x.after = x.before.insert (s.mapper.idOf a) (writtenOver s a record r.cells))
  | deleted {id : String} (hcall : call = .delete id) (gone : x.after.get? id = none)
    (others : ∀ key, key ≠ id → x.after.get? key = x.before.get? key)

theorem effect_of_leads {call : Call α} (hcall : call.IsRecorded s) {x : Exchange}
    (h : (call.operation s).Leads db (history ++ [x]) o) : Effect s call x := by
  have hlast : (history ++ [x]).getLast? = some x := List.getLast?_concat
  generalize history ++ [x] = all at h hlast
  cases call with
  | create a =>
    obtain ⟨record, hrecord⟩ := hcall
    cases createStage hrecord h with
    | asked => cases hlast
    | created free after =>
      cases hlast
      exact .added rfl free after
    | taken row after =>
      cases hlast
      exact .nothing after
  | update a =>
    obtain ⟨record, hrecord⟩ := hcall
    cases updateStage hrecord h with
    | asked => cases hlast
    | hit request row version small after =>
      cases hlast
      exact .overwritten rfl row version small after
    | greatest request row version great after =>
      cases hlast
      exact .nothing after
    | missed request miss after =>
      cases hlast
      exact .nothing after
    | told request miss after question unchanged =>
      cases hlast
      exact .nothing unchanged
  | find id =>
    cases findStage h with
    | asked => cases hlast
    | done after =>
      cases hlast
      exact .nothing after
  | delete id =>
    cases deleteStage h with
    | asked => cases hlast
    | done gone others failed =>
      cases hlast
      exact .deleted rfl gone others

/-- Only the row that a call means can become another. -/
theorem Effect.others {call : Call α} {x : Exchange} (h : Effect s call x) {key : String}
    (hkey : key ≠ call.target s) : x.after.get? key = x.before.get? key := by
  cases h with
  | nothing after => rw [after]
  | added hcall _ after =>
    subst hcall
    rw [after, Dict.get?_insert]
    exact if_neg (Ne.symm hkey)
  | overwritten hcall _ _ _ after =>
    subst hcall
    rw [after, Dict.get?_insert]
    exact if_neg (Ne.symm hkey)
  | deleted hcall _ others =>
    subst hcall
    exact others key hkey

/-- A row that is new is one that was created. -/
theorem Effect.appears {call : Call α} {x : Exchange} (h : Effect s call x) {id : String}
    (hfree : x.before.get? id = none) {r : Stored} (hr : x.after.get? id = some r) :
    ∃ a, call = .create a ∧ s.mapper.idOf a = id ∧ r.version = s.mapper.versionOf a := by
  cases h with
  | nothing after =>
    rw [after, hfree] at hr
    cases hr
  | @added a record hcall free after =>
    rw [after, Dict.get?_insert] at hr
    split at hr
    · rename_i hid
      cases hr
      exact ⟨a, hcall, hid, rfl⟩
    · rw [hfree] at hr
      cases hr
  | @overwritten a record old hcall row version small after =>
    have hne : s.mapper.idOf a ≠ id := by
      rintro rfl
      rw [hfree] at row
      cases row
    rw [after, Dict.get?_insert, if_neg hne, hfree] at hr
    cases hr
  | @deleted key hcall gone others =>
    by_cases hid : id = key
    · rw [hid, gone] at hr
      cases hr
    · rw [others id hid, hfree] at hr
      cases hr

theorem Effect.of_find {x : Exchange} (h : Effect s (.find id) x) : x.after = x.before := by
  cases h with
  | nothing after => exact after
  | added hcall => cases hcall
  | overwritten hcall => cases hcall
  | deleted hcall => cases hcall

/-- A call that fails has changed nothing. -/
theorem unchanged_of_failure {call : Call α} (hcall : call.IsRecorded s) {e : StoreError}
    (h : (call.operation s).Leads db history (.done (.error e))) :
    ∀ x ∈ history, x.after = x.before := by
  generalize ho : Operation.done (Except.error e) = o at h
  cases call with
  | create a =>
    obtain ⟨record, hrecord⟩ := hcall
    cases createStage hrecord h with
    | asked => simp
    | created => cases ho
    | taken row after => simpa using after
  | update a =>
    obtain ⟨record, hrecord⟩ := hcall
    cases updateStage hrecord h with
    | asked => simp
    | hit => cases ho
    | greatest request row version great after => simpa using after
    | missed request miss after => simpa using after
    | told request miss after question unchanged => simpa using ⟨after, unchanged⟩
  | find id =>
    cases findStage h with
    | asked => simp
    | done after => simpa using after
  | delete id =>
    cases deleteStage h with
    | asked => simp
    | done gone others failed =>
      injection ho with ho
      simpa using failed e ho.symm

theorem length_le_two_of_leads {call : Call α} (hcall : call.IsRecorded s)
    (h : (call.operation s).Leads db history o) : history.length ≤ 2 := by
  cases call with
  | create a =>
    obtain ⟨record, hrecord⟩ := hcall
    cases createStage hrecord h <;> simp
  | update a =>
    obtain ⟨record, hrecord⟩ := hcall
    cases updateStage hrecord h <;> simp
  | find id => cases findStage h <;> simp
  | delete id => cases deleteStage h <;> simp

end Stages

/-! ## Answers -/

section Answers

variable {s : Store α} {db : Database} {a : α} {record : List Argument} {history : List Exchange}
  {outcome : Except StoreError (Answer α)}

theorem toInt_succ {v : Int64} (h : v ≠ Int64.maxValue) : (v + 1).toInt = v.toInt + 1 := by
  have hlt : v.toInt < 2 ^ 63 - 1 := by
    have hmax : Int64.maxValue.toInt = 2 ^ 63 - 1 := by decide
    have hle := Int64.toInt_le v
    have hne : v.toInt ≠ Int64.maxValue.toInt := fun heq => h (Int64.toInt_inj.1 heq)
    omega
  have hge := Int64.le_toInt v
  rw [Int64.toInt_add, Int64.toInt_one]
  exact Int.bmod_eq_of_le (by omega) (by omega)

/-- What the answer to a creation says of its statement: it succeeds exactly if no row has the
identity, and is a conflict otherwise. -/
structure CreateAnswer (s : Store α) (a : α) (record : List Argument) (x : Exchange)
    (outcome : Except StoreError (Answer α)) : Prop where
  succeeds : outcome = .ok .created ↔ x.before.get? (s.mapper.idOf a) = none
  written : outcome = .ok .created →
    x.after = x.before.insert (s.mapper.idOf a) (written s a record)
  refused : outcome ≠ .ok .created →
    (∃ message, outcome = .error (.duplicate "create" s.table message)) ∧ x.after = x.before

/-- What the answer to an update says of its statements: the first one decides whether it succeeds,
and after a failure the second one whether it is a conflict. -/
structure UpdateAnswer (s : Store α) (a : α) (record : List Argument) (x : Exchange)
    (rest : List Exchange) (outcome : Except StoreError (Answer α)) : Prop where
  request : x.request = s.overwriting a record
  succeeds : (∃ answer, outcome = .ok answer) ↔
    ∃ r, x.before.get? (s.mapper.idOf a) = some r ∧ r.version = s.mapper.versionOf a
  written : ∀ answer, outcome = .ok answer → rest = [] ∧
    answer = .updated (s.mapper.versionOf a + 1) ∧
    (s.mapper.versionOf a + 1).toInt = (s.mapper.versionOf a).toInt + 1 ∧
    ∃ r r', x.before.get? (s.mapper.idOf a) = some r ∧
      x.after = x.before.insert (s.mapper.idOf a) r' ∧ r'.version = s.mapper.versionOf a + 1 ∧
      (∀ p ∈ assigned s.mapper.columns record, r'.cells p.1 = p.2) ∧
      ∀ column, column ∉ s.mapper.columns → r'.cells column = r.cells column
  refused : ∀ e, outcome = .error e → x.after = x.before ∧ ∃ y, rest = [y] ∧
    y.request = s.presence (s.mapper.idOf a) ∧ y.after = y.before ∧
    e = if (y.before.get? (s.mapper.idOf a)).isSome then
        .staleVersion s.table (s.mapper.idOf a) (s.mapper.versionOf a)
      else .noSuchId s.table (s.mapper.idOf a)

theorem createAnswer (hrecord : s.Records a record)
    (h : (Call.operation s (.create a)).Leads db history (.done outcome)) :
    ∃ x, history = [x] ∧ CreateAnswer s a record x outcome := by
  generalize ho : Operation.done outcome = o at h
  cases createStage hrecord h with
  | asked =>
    rw [operation_create hrecord] at ho
    cases ho
  | created free after =>
    cases ho
    exact ⟨_, rfl, by simpa using free, fun _ => after, fun h => absurd rfl h⟩
  | taken row after =>
    cases ho
    exact ⟨_, rfl, by simp [row], fun h => (by cases h), fun _ => ⟨⟨_, rfl⟩, after⟩⟩

theorem updateAnswer (hrecord : s.Records a record)
    (h : (Call.operation s (.update a)).Leads db history (.done outcome))
    (hsmall : ∀ x ∈ history, ∀ r, x.before.get? (s.mapper.idOf a) = some r →
      r.version ≠ Int64.maxValue) :
    ∃ x rest, history = x :: rest ∧ UpdateAnswer s a record x rest outcome := by
  generalize ho : Operation.done outcome = o at h
  cases updateStage hrecord h with
  | asked =>
    rw [operation_update hrecord] at ho
    cases ho
  | @hit x r request row version small after =>
    cases ho
    refine ⟨x, [], rfl, request, by simp [row, version], fun answer hanswer => ?_, by simp⟩
    cases hanswer
    refine ⟨rfl, rfl, toInt_succ (version ▸ small), r, _, row, after, rfl, fun p hp => ?_,
      fun column hcolumn => overwrite_other hcolumn⟩
    exact overwrite_assigned hrecord.2.distinct hrecord.2.length hp
  | @greatest x r e request row version great after =>
    exact absurd great (hsmall x (List.mem_singleton_self x) r row)
  | missed => cases ho
  | @told x y request miss after question unchanged =>
    cases ho
    refine ⟨x, [y], rfl, request, ?_, by simp, fun e he => ?_⟩
    · constructor
      · rintro ⟨answer, hanswer⟩
        cases hanswer
      · rintro ⟨r, row, version⟩
        exact absurd version (miss r row)
    · cases he
      exact ⟨after, y, rfl, question, unchanged, rfl⟩

end Answers

end Sieve
