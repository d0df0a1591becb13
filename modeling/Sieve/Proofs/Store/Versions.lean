import Mathlib
import Sieve.Proofs.Store.Interleaving

/-!
# Sieve.Proofs.Store.Versions

No update is lost: the version of a row tells every client whether the row is still the one that it
has read.

* `Once.step`: an expected version of a row is met by one update at most.
* `Runs.no_lost_update`: what a run of any clients does to a row that is never deleted, and what it
  answers.
* `Race`: two clients that update one row.
-/

namespace Sieve

open Sql Database

variable {α : Type}

/-! ## A version is overwritten once -/

section Once

variable {s : Store α} {db : Database} {σ σ' : Clients α} {log : List (Event α)} {e : Event α}
  {id : String} {v : Int64} {call : Call α} {x : Exchange}

/-- The row with an identity has gone past a version. -/
def Past (id : String) (v : Int64) (rows : Rows) : Prop :=
  ∃ r, rows.get? id = some r ∧ v.toInt < r.version.toInt

/-- A row that is not deleted stays, with the same version or a greater one. -/
theorem Effect.keeps (h : Effect s call x) (hkept : call ≠ .delete id) {r : Stored}
    (hr : x.before.get? id = some r) :
    ∃ r', x.after.get? id = some r' ∧
      (r' = r ∨ ∃ a, call = .update a ∧ s.mapper.idOf a = id ∧
        s.mapper.versionOf a = r.version ∧ r.version ≠ Int64.maxValue ∧
        r'.version = r.version + 1) := by
  cases h with
  | nothing after => exact ⟨r, by rw [after, hr], .inl rfl⟩
  | @added a record hcall free after =>
    have hne : s.mapper.idOf a ≠ id := by
      rintro rfl
      rw [free] at hr
      cases hr
    exact ⟨r, by rw [after, Dict.get?_insert, if_neg hne, hr], .inl rfl⟩
  | @overwritten a record old hcall row version small after =>
    by_cases hid : s.mapper.idOf a = id
    · subst hid
      rw [row, Option.some.injEq] at hr
      subst hr
      refine ⟨_, by rw [after, Dict.get?_insert, if_pos rfl], .inr ⟨a, hcall, rfl, version.symm,
        small, ?_⟩⟩
      rw [version]
      rfl
    · exact ⟨r, by rw [after, Dict.get?_insert, if_neg hid, hr], .inl rfl⟩
  | @deleted key hcall gone others =>
    have hne : id ≠ key := by
      rintro rfl
      exact hkept hcall
    exact ⟨r, by rw [others id hne, hr], .inl rfl⟩

theorem Effect.past (h : Effect s call x) (hkept : call ≠ .delete id) (hpast : Past id v x.before) :
    Past id v x.after := by
  obtain ⟨r, hr, hlt⟩ := hpast
  obtain ⟨r', hr', rfl | ⟨a, -, -, -, small, hversion⟩⟩ := h.keeps hkept hr
  · exact ⟨r', hr', hlt⟩
  · refine ⟨r', hr', ?_⟩
    rw [hversion, toInt_succ small]
    omega

/-- An update with an identity and an expected version has been answered with a new version. -/
def isWin (s : Store α) (id : String) (v : Int64) : Event α → Bool
  | .answered _ (.update a) _ (.ok _) => s.mapper.idOf a == id && s.mapper.versionOf a == v
  | _ => false

/-- A call is about to have such an answer. -/
def Pending.Wins (s : Store α) (id : String) (v : Int64) (p : Pending α) : Prop :=
  ∃ a answer, p.call = .update a ∧ s.mapper.idOf a = id ∧ s.mapper.versionOf a = v ∧
    p.rest = .done (.ok answer)

def Clients.Wins (s : Store α) (id : String) (v : Int64) (σ : Clients α) (client : Nat) : Prop :=
  ∃ p, σ.pending client = some p ∧ p.Wins s id v

/-- An expected version of a row has been met by no update, or by one that still has to be answered,
or by one that was answered; once it is met the row has gone past it. -/
inductive Once (s : Store α) (id : String) (v : Int64) (log : List (Event α)) (σ : Clients α) :
    Prop where
  | unmet (nobody : ∀ client, ¬ σ.Wins s id v client) (count : log.countP (isWin s id v) = 0)
  | met (winner : Nat) (only : ∀ client, σ.Wins s id v client → client = winner)
    (count : log.countP (isWin s id v) = 0) (past : Past id v σ.rows)
  | told (nobody : ∀ client, ¬ σ.Wins s id v client) (count : log.countP (isWin s id v) = 1)
    (past : Past id v σ.rows)

theorem Clients.wins_put {rows : Rows} {client other : Nat} {q : Option (Pending α)}
    (h : (σ.put rows client q).Wins s id v other) :
    (other = client ∧ ∃ p, q = some p ∧ p.Wins s id v) ∨
      (other ≠ client ∧ σ.Wins s id v other) := by
  obtain ⟨p, hp, hwins⟩ := h
  rcases pending_put.1 hp with ⟨heq, hq⟩ | ⟨hne, hp⟩
  · exact .inl ⟨heq, p, hq, hwins⟩
  · exact .inr ⟨hne, p, hp, hwins⟩

/-- What is answered as a success was about to be. -/
theorem Pending.wins_of_isWin {client : Nat} {history : List Exchange}
    {outcome : Except StoreError (Answer α)}
    (h : isWin s id v (.answered client call history outcome) = true) :
    Pending.Wins s id v ⟨call, history, .done outcome⟩ := by
  cases call with
  | update a =>
    cases outcome with
    | ok answer =>
      simp only [isWin, Bool.and_eq_true, beq_iff_eq] at h
      exact ⟨a, answer, rfl, h.1, h.2, rfl⟩
    | error e => cases h
  | _ => cases h

/-- A call that has just been made has no success yet. -/
theorem Call.not_wins (h : call.IsRecorded s) :
    ¬ Pending.Wins s id v ⟨call, [], call.operation s⟩ := by
  rintro ⟨a, answer, hcall, -, -, hrest⟩
  simp only at hcall hrest
  subst hcall
  obtain ⟨record, hrecord⟩ := h
  rw [operation_update hrecord] at hrest
  cases hrest

/-- An update that succeeds has met the row with the version that it expects, and has taken it past
that. -/
theorem Came.meets {client : Nat} {history : List Exchange} {rest : Operation (Answer α)}
    (h : Came s db log client call (history ++ [x]) rest)
    (hwin : Pending.Wins s id v ⟨call, history ++ [x], rest⟩) :
    ¬ Past id v x.before ∧ Past id v x.after := by
  obtain ⟨a, answer, hcall, rfl, rfl, hrest⟩ := hwin
  simp only at hcall hrest
  subst hcall hrest
  obtain ⟨record, hrecord⟩ := h.recorded
  have hstage := updateStage hrecord h.leads
  have hlast : (history ++ [x]).getLast? = some x := List.getLast?_concat
  generalize ho : Operation.done (Except.ok answer) = o at hstage
  generalize history ++ [x] = all at hstage hlast
  cases hstage with
  | @hit y r request row version small after =>
    obtain rfl : y = x := Option.some.inj hlast
    constructor
    · rintro ⟨r', hr', hlt⟩
      rw [row, Option.some.injEq] at hr'
      subst hr'
      rw [version] at hlt
      omega
    · refine ⟨_, by rw [after, Dict.get?_insert, if_pos rfl], ?_⟩
      rw [writtenOver, toInt_succ (version ▸ small)]
      omega
  | asked => cases hlast
  | greatest => cases ho
  | missed => cases ho
  | told => cases ho

/-- Nothing about an expected version changes in a step that lets no update win. -/
theorem Once.carry (h : Once s id v log σ)
    (hwins : ∀ client, σ'.Wins s id v client → σ.Wins s id v client)
    (hevent : isWin s id v e = false) (hpast : Past id v σ.rows → Past id v σ'.rows) :
    Once s id v (log ++ [e]) σ' := by
  have hcount : (log ++ [e]).countP (isWin s id v) = log.countP (isWin s id v) := by
    rw [List.countP_append, List.countP_singleton, hevent]
    rfl
  cases h with
  | unmet nobody count => exact .unmet (fun c hc => nobody c (hwins c hc)) (hcount.trans count)
  | met winner only count past =>
    exact .met winner (fun c hc => only c (hwins c hc)) (hcount.trans count) (hpast past)
  | told nobody count past =>
    exact .told (fun c hc => nobody c (hwins c hc)) (hcount.trans count) (hpast past)

/-- The first update that meets an expected version. -/
theorem Once.meet (h : Once s id v log σ) (client : Nat) (hfresh : ¬ Past id v σ.rows)
    (hwins : ∀ other, σ'.Wins s id v other → other = client ∨ σ.Wins s id v other)
    (hevent : isWin s id v e = false) (hpast : Past id v σ'.rows) :
    Once s id v (log ++ [e]) σ' := by
  cases h with
  | unmet nobody count =>
    refine .met client (fun other hother => ?_) ?_ hpast
    · exact (hwins other hother).resolve_right (nobody other)
    · rw [List.countP_append, List.countP_singleton, count, hevent]
      rfl
  | met winner only count past => exact absurd past hfresh
  | told nobody count past => exact absurd past hfresh

/-- The update that has met an expected version is answered. -/
theorem Once.tell (h : Once s id v log σ) {client : Nat} (hwin : σ.Wins s id v client)
    (hwins : ∀ other, σ'.Wins s id v other → other ≠ client ∧ σ.Wins s id v other)
    (hevent : isWin s id v e = true) (hpast : Past id v σ.rows → Past id v σ'.rows) :
    Once s id v (log ++ [e]) σ' := by
  cases h with
  | unmet nobody count => exact absurd hwin (nobody client)
  | told nobody count past => exact absurd hwin (nobody client)
  | met winner only count past =>
    refine .told (fun other hother => ?_) ?_ (hpast past)
    · obtain ⟨hne, hother⟩ := hwins other hother
      exact hne ((only other hother).trans (only client hwin).symm)
    · rw [List.countP_append, List.countP_singleton, count, hevent]
      rfl

theorem Once.step (h : Once s id v log σ) (hsound : Sound s db log σ)
    (hstep : Step s db σ e σ') (hkept : ∀ client x, e ≠ .executed client (.delete id) x) :
    Once s id v (log ++ [e]) σ' := by
  have hnext := hsound.step hstep
  cases hstep with
  | @call client call idle recorded =>
    refine h.carry (fun other hother => ?_) rfl fun past => past
    rcases Clients.wins_put hother with ⟨-, p, hp, hwins⟩ | ⟨-, hwins⟩
    · cases hp
      exact absurd hwins (Call.not_wins recorded)
    · exact hwins
  | @execute client call history x next waiting here executed =>
    by_cases hwin : Pending.Wins s id v ⟨call, history ++ [x], next x.reply⟩
    · have hcame := hnext.pending client _ (Clients.pending_put.2 (.inl ⟨rfl, rfl⟩))
      obtain ⟨hfresh, hpast⟩ := hcame.meets hwin
      rw [here] at hfresh
      refine h.meet client hfresh (fun other hother => ?_) rfl hpast
      rcases Clients.wins_put hother with ⟨heq, -⟩ | ⟨-, hwins⟩
      · exact .inl heq
      · exact .inr hwins
    · have heffect := hnext.executed client call x
        (List.mem_append_right _ (List.mem_singleton_self _))
      refine h.carry (fun other hother => ?_) rfl fun past => ?_
      · rcases Clients.wins_put hother with ⟨-, p, hp, hwins⟩ | ⟨-, hwins⟩
        · cases hp
          exact absurd hwins hwin
        · exact hwins
      · refine heffect.past (fun hdelete => ?_) (here ▸ past)
        exact hkept client x (by rw [hdelete])
  | @answer client call history outcome finished =>
    have hwins : ∀ other, (σ.put σ.rows client none).Wins s id v other →
        other ≠ client ∧ σ.Wins s id v other := by
      intro other hother
      rcases Clients.wins_put hother with ⟨-, p, hp, -⟩ | hwins
      · cases hp
      · exact hwins
    cases hevent : isWin s id v (.answered client call history outcome) with
    | false => exact h.carry (fun other hother => (hwins other hother).2) hevent fun past => past
    | true =>
      exact h.tell ⟨_, finished, Pending.wins_of_isWin hevent⟩ hwins hevent fun past => past

theorem Runs.once (hrun : Runs s db σ log σ') (hidle : ∀ client, σ.pending client = none)
    (hkept : ∀ client x, Event.executed client (.delete id) x ∉ log) : Once s id v log σ' := by
  induction hrun with
  | nil =>
    refine .unmet (fun client hwins => ?_) rfl
    obtain ⟨p, hp, -⟩ := hwins
    rw [hidle client] at hp
    cases hp
  | snoc run step ih =>
    refine (ih fun client x hx => hkept client x (List.mem_append_left _ hx)).step
      (run.sound hidle) step fun client x he => hkept client x ?_
    exact List.mem_append_right _ (List.mem_singleton.2 he.symm)

theorem Once.count_le (h : Once s id v log σ) : log.countP (isWin s id v) ≤ 1 := by
  cases h with
  | unmet nobody count => omega
  | met winner only count past => omega
  | told nobody count past => omega

end Once

/-! ## Runs -/

section Runs

variable {s : Store α} {db : Database} {σ σ' : Clients α} {log : List (Event α)} {id : String}

/-- What the events of a run that leads from a table to a state say of the row with an identity, and
of all other rows. -/
structure NoLostUpdate (s : Store α) (db : Database) (id : String) (t : Rows)
    (log : List (Event α)) (σ : Clients α) : Prop where
  /-- The table is what the statements have made of it, one after the other. -/
  linked : Linked t (log.filterMap Event.exchange?) σ.rows
  /-- Every call is answered after two statements at most, whatever other clients do. -/
  moves : ∀ client p, σ.pending client = some p → p.history.length ≤ 2 ∧
    ∃ e σ', Step s db σ e σ' ∧ σ'.pending client ≠ some p
  observed : ∀ client call history outcome, Event.answered client call history outcome ∈ log →
    ∀ x ∈ history, Event.executed client call x ∈ log
  updates : ∀ client a history outcome, Event.answered client (.update a) history outcome ∈ log →
    s.mapper.idOf a = id → ∃ record x rest, s.Records a record ∧ history = x :: rest ∧
      UpdateAnswer s a record x rest outcome
  creates : ∀ client a history outcome, Event.answered client (.create a) history outcome ∈ log →
    s.mapper.idOf a = id → ∃ record x, s.Records a record ∧ history = [x] ∧
      CreateAnswer s a record x outcome
  /-- The row stays as it is, unless an update that expects its version gives it the next one. -/
  versions : ∀ client call x r, Event.executed client call x ∈ log → x.before.get? id = some r →
    ∃ r', x.after.get? id = some r' ∧ (r' = r ∨ ∃ a, call = .update a ∧ s.mapper.idOf a = id ∧
      s.mapper.versionOf a = r.version ∧ r'.version = r.version + 1)
  appears : ∀ client call x r, Event.executed client call x ∈ log → x.before.get? id = none →
    x.after.get? id = some r →
      ∃ a, call = .create a ∧ s.mapper.idOf a = id ∧ r.version = s.mapper.versionOf a
  /-- Of all updates with one expected version one succeeds at most. -/
  once : ∀ v, log.countP (isWin s id v) ≤ 1
  others : ∀ client call x, Event.executed client call x ∈ log →
    ∀ key, key ≠ call.target s → x.after.get? key = x.before.get? key
  failures : ∀ client call history e, Event.answered client call history (.error e) ∈ log →
    ∀ x ∈ history, x.after = x.before
  finds : ∀ client key x, Event.executed client (.find key) x ∈ log → x.after = x.before

/-- In every run in which a row is never deleted and its version stays below the greatest one. -/
theorem Runs.no_lost_update (hrun : Runs s db σ log σ') (hidle : ∀ client, σ.pending client = none)
    (hkept : ∀ client x, Event.executed client (.delete id) x ∉ log)
    (hsmall : ∀ client call x r, Event.executed client call x ∈ log → x.before.get? id = some r →
      r.version ≠ Int64.maxValue) :
    NoLostUpdate s db id σ.rows log σ' := by
  have hsound : Sound s db log σ' := hrun.sound hidle
  refine
    { linked := hrun.linked
      moves := fun client p hp => ?_
      observed := fun client call history outcome h => (hsound.answered _ _ _ _ h).observed
      updates := fun client a history outcome h hid => ?_
      creates := fun client a history outcome h _ => ?_
      versions := fun client call x r hx hr => ?_
      appears := fun client call x r hx hfree hr => (hsound.executed _ _ _ hx).appears hfree hr
      once := fun v => (hrun.once hidle hkept).count_le
      others := fun client call x hx key hkey => (hsound.executed _ _ _ hx).others hkey
      failures := fun client call history e h => ?_
      finds := fun client key x hx => (hsound.executed _ _ _ hx).of_find }
  · have hcame := hsound.pending client p hp
    exact ⟨length_le_two_of_leads hcame.recorded hcame.leads, Clients.moves s db hp⟩
  · subst hid
    have hcame := hsound.answered _ _ _ _ h
    obtain ⟨record, hrecord⟩ := hcame.recorded
    obtain ⟨x, rest, hhistory, hanswer⟩ := updateAnswer hrecord hcame.leads
      fun x hx r hr => hsmall _ _ x r (hcame.observed x hx) hr
    exact ⟨record, x, rest, hrecord, hhistory, hanswer⟩
  · have hcame := hsound.answered _ _ _ _ h
    obtain ⟨record, hrecord⟩ := hcame.recorded
    obtain ⟨x, hhistory, hanswer⟩ := createAnswer hrecord hcame.leads
    exact ⟨record, x, hrecord, hhistory, hanswer⟩
  · have hdelete : call ≠ .delete id := by
      rintro rfl
      exact hkept client x hx
    obtain ⟨r', hr', heq | ⟨a, hcall, hid, hversion, -, hnext⟩⟩ :=
      (hsound.executed _ _ _ hx).keeps hdelete hr
    · exact ⟨r', hr', .inl heq⟩
    · exact ⟨r', hr', .inr ⟨a, hcall, hid, hversion, hnext⟩⟩
  · have hcame := hsound.answered _ _ _ _ h
    exact unchanged_of_failure hcame.recorded hcame.leads

end Runs

/-! ## Two clients and one row -/

namespace Race

def store : Store Json := ⟨"sites", .byColumns ["id", "name", "version"], .empty, 10⟩

def database : Database where
  engine := ⟨compare, fun _ => 0, fun _ => "", fun _ _ => false⟩
  present _ id _ := ⟨some (.object [("id", .text id)])⟩
  duplicate id := "duplicate key: " ++ id

/-- The row as both clients have read it, with another name. -/
def renamed (name : String) : Json :=
  .object [("id", .text "a"), ("name", .text name), ("version", .integer (.ofInt64 1))]

def record (name : String) : List Argument := [.text "a", .text name, .int 1]

/-- The table before and after the first update. -/
def rows : Rows := Dict.empty.insert "a" ⟨1, fun _ => .null⟩

def rows' : Rows :=
  rows.insert "a" (writtenOver store (renamed "north") (record "north") fun _ => .null)

theorem records (name : String) : store.Records (renamed name) (record name) :=
  ⟨rfl, rfl, by decide, rfl, rfl⟩

theorem get?_rows : rows.get? "a" = some ⟨1, fun _ => .null⟩ := by
  rw [rows, Dict.get?_insert, if_pos rfl]

theorem get?_rows' :
    rows'.get? "a" =
      some (writtenOver store (renamed "north") (record "north") fun _ => .null) := by
  rw [rows', Dict.get?_insert, if_pos rfl]

/-- The statements of both clients: the first update, the second one, and its question. -/
def first : Exchange := ⟨rows, store.overwriting (renamed "north") (record "north"), .int 2, rows'⟩

def second : Exchange :=
  ⟨rows', store.overwriting (renamed "south") (record "south"), .rows [], rows'⟩

def question : Exchange := ⟨rows', store.presence "a", .bool true, rows'⟩

theorem first_isBy : first.IsBy database := by
  have h : (rows.get? "a").filter (fun r => r.version == (1 : Int64)) =
      some ⟨1, fun _ => .null⟩ := by
    rw [get?_rows]
    rfl
  show database.execute rows (updateRequest _ _ _ "a" 1) = _
  rw [execute_update, h]
  rfl

theorem second_isBy : second.IsBy database := by
  have h : (rows'.get? "a").filter (fun r => r.version == (1 : Int64)) = none := by
    rw [get?_rows']
    rfl
  show database.execute rows' (updateRequest _ _ _ "a" 1) = _
  rw [execute_update, h]
  rfl

theorem question_isBy : question.IsBy database := by
  show database.execute rows' ⟨.existence _ (hasId 1), [.text "a"]⟩ = _
  rw [execute_existence, get?_rows']
  rfl

def log : List (Event Json) :=
  [.called 0 (.update (renamed "north")), .called 1 (.update (renamed "south")),
    .executed 0 (.update (renamed "north")) first, .executed 1 (.update (renamed "south")) second,
    .answered 0 (.update (renamed "north")) [first] (.ok (.updated 2)),
    .executed 1 (.update (renamed "south")) question,
    .answered 1 (.update (renamed "south")) [second, question]
      (.error (.staleVersion "sites" "a" 1))]

theorem runs : ∃ σ, Runs store database ⟨rows, fun _ => none⟩ log σ := by
  have hnorth := operation_update (records "north")
  have hsouth := operation_update (records "south")
  refine ⟨_, .cons (.call rfl ⟨_, records "north"⟩) (.cons (.call rfl ⟨_, records "south"⟩)
    (.cons (.execute (congrArg (fun o => some (Pending.mk _ [] o)) hnorth) rfl first_isBy)
    (.cons (.execute (congrArg (fun o => some (Pending.mk _ [] o)) hsouth) rfl second_isBy)
    (.cons (.answer rfl) (.cons (.execute rfl rfl question_isBy) (.cons (.answer rfl) .nil))))))⟩

end Race

/-- The second of two updates finds a version that it does not expect. -/
theorem no_lost_update_race :
    ∃ σ, Runs Race.store Race.database ⟨Race.rows, fun _ => none⟩ Race.log σ ∧
      NoLostUpdate Race.store Race.database "a" Race.rows Race.log σ := by
  obtain ⟨σ, hrun⟩ := Race.runs
  refine ⟨σ, hrun, hrun.no_lost_update (fun _ => rfl) (fun client x hx => ?_)
    fun client call x r hx hr => ?_⟩
  · simp [Race.log] at hx
  · have hx : x = Race.first ∨ x = Race.second ∨ x = Race.question := by
      simp only [Race.log, List.mem_cons, Event.executed.injEq, reduceCtorEq, false_or, or_false,
        List.not_mem_nil] at hx
      tauto
    rcases hx with rfl | rfl | rfl
    · rw [Race.first, Race.get?_rows] at hr
      cases hr
      decide
    · rw [Race.second, Race.get?_rows'] at hr
      cases hr
      decide
    · rw [Race.question, Race.get?_rows'] at hr
      cases hr
      decide

end Sieve
