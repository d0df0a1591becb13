import Mathlib
import Sieve.Proofs.Sql.Evaluation
import Sieve.Store

/-!
# Sieve.Proofs.Store.Rows

What a database does with the statements of a store. A table is a map from the identity of a row to
its version and its other columns; a statement is executed as a whole or refused as a whole, and
conditions are evaluated on every row.

* `Database.execute`: the table and the reply after a statement.
* `execute_insert`, `execute_update`, `execute_existence`, `execute_select`, `execute_delete`: what
  the requests of a store come to, in terms of the one row that they mean.
-/

namespace Sieve

open Sql

/-- A row apart from its identity. -/
structure Stored where
  version : Int64
  cells : String → Argument

abbrev Rows := Dict Stored

/-- What is left to the database. -/
structure Database where
  engine : Engine
  /-- The row that a selection gives for a stored one. -/
  present : Selection → String → Stored → Row
  /-- The text that refuses a second row with an identity. -/
  duplicate : String → String

namespace Database

/-- The argument at a placeholder. -/
def placed (arguments : List Argument) (index : Nat) : Option Argument :=
  if index = 0 then none else arguments[index - 1]?

def value? (arguments : List Argument) : Cell → Option Argument
  | .null => some .null
  | .param index => placed arguments index

def values? (arguments : List Argument) : List Cell → Option (List Argument)
  | [] => some []
  | c :: cs =>
    match value? arguments c, values? arguments cs with
    | some a, some as => some (a :: as)
    | _, _ => none

/-- Values are written to columns. -/
def overwrite (cells : String → Argument) (values : List (String × Argument)) :
    String → Argument :=
  fun column => (values.lookup column).getD (cells column)

section Statements

variable (db : Database) (arguments : List Argument)

/-- What a condition is evaluated on. -/
def env (id : String) (r : Stored) : Env where
  engine := db.engine
  row column :=
    if column = idColumn then some (.text id)
    else if column = versionColumn then some (.integer r.version.toInt)
    else (r.cells column).datum?
  argument := placed arguments
  element := none

/-- Whether a row satisfies a condition; not, if the condition is unknown. -/
def fits (filter : Expr) (id : String) (r : Stored) : Except Fault Bool := do
  return (← truthOf (← eval (db.env arguments id r) filter)) == some true

def matching (filter : Expr) : Entries Stored → Except Fault (Entries Stored)
  | [] => .ok []
  | (id, r) :: rest => do
    let fit ← db.fits arguments filter id r
    let more ← matching filter rest
    return if fit then (id, r) :: more else more

/-- The reply to a statement that cannot be executed. -/
def invalid : Reply := .failed "22000" "invalid statement"

def outOfRange : Reply := .failed "22003" "bigint out of range"

/-- A new row, unless the table has one with its identity. -/
def insertRow (t : Rows) (columns : List String) (values : List Argument) : Rows × Reply :=
  let record := columns.zip values
  match record.lookup idColumn, record.lookup versionColumn with
  | some (.text id), some (.int version) =>
    match t.get? id with
    | some _ => (t, .failed DatabaseFault.uniqueViolation (db.duplicate id))
    | none =>
      (t.insert id ⟨version, overwrite (fun _ => .null) (assigned columns values)⟩, .affected 1)
  | _, _ => (t, invalid)

/-- Values are written to rows and their versions go up by one, unless one is the greatest. -/
def bump (values : List (String × Argument)) (t : Rows) : Entries Stored → Option Rows
  | [] => some t
  | (id, r) :: rest =>
    if r.version = Int64.maxValue then none
    else bump values (t.insert id ⟨r.version + 1, overwrite r.cells values⟩) rest

def updateRows (t : Rows) (values : List (String × Argument)) (found : Entries Stored) :
    Rows × Reply :=
  match bump values t found, found with
  | none, _ => (t, outOfRange)
  | some t', [] => (t', .rows [])
  | some t', (_, r) :: _ => (t', .int (r.version + 1))

/-- The table without some of its rows. -/
def without (t : Rows) (found : Entries Stored) : Rows :=
  ⟨t.entries.filter fun e => !found.any fun f => f.1 == e.1, t.sorted.filter _⟩

end Statements

/-- The table and the reply after a request. Only the statements that address one row are
executed. -/
def execute (db : Database) (t : Rows) (q : Request) : Rows × Reply :=
  match q.statement with
  | .insert _ columns cells =>
    match values? q.arguments cells with
    | some values => db.insertRow t columns values
    | none => (t, invalid)
  | .update _ assignments filter =>
    match values? q.arguments (assignments.map Prod.snd),
      db.matching q.arguments filter t.entries with
    | some values, .ok found => updateRows t ((assignments.map Prod.fst).zip values) found
    | _, _ => (t, invalid)
  | .existence _ filter =>
    match db.matching q.arguments filter t.entries with
    | .ok found => (t, .bool !found.isEmpty)
    | .error _ => (t, invalid)
  | .select selection _ filter _ .all =>
    match db.matching q.arguments filter t.entries with
    | .ok found => (t, .rows (found.map fun e => db.present selection e.1 e.2))
    | .error _ => (t, invalid)
  | .delete _ filter =>
    match db.matching q.arguments filter t.entries with
    | .ok found => (without t found, .affected found.length)
    | .error _ => (t, invalid)
  | _ => (t, invalid)

end Database

/-! ## Rows with an identity -/

section Matching

variable {db : Database} {arguments : List Argument} {t : Rows} {id : String} {v : Int64}
  {index : Nat}

open Database

theorem matching_eq_filter {filter : Expr} {p : String × Stored → Bool} {entries : Entries Stored}
    (h : ∀ id r, db.fits arguments filter id r = .ok (p (id, r))) :
    db.matching arguments filter entries = .ok (entries.filter p) := by
  induction entries with
  | nil => rfl
  | cons e rest ih =>
    obtain ⟨id, r⟩ := e
    simp only [matching, h, ih, bind, Except.bind, pure, Except.pure, List.filter_cons]

theorem decides_hasId (hid : placed arguments index = some (.text id)) (key : String) (r : Stored) :
    Decides (db.env arguments key r) (hasId index) (some (key == id)) := by
  have hcolumn : eval (db.env arguments key r) (.column idColumn) = .ok (some (.text key)) := by
    simp [eval, env]
  have hparam : eval (db.env arguments key r) (.param ⟨index, none⟩) = .ok (some (.text id)) := by
    simp only [eval, Env.param, env, hid]
    rfl
  exact decides_compare hcolumn hparam rfl

theorem decides_hasVersion (hv : placed arguments index = some (.int v)) (key : String)
    (r : Stored) :
    Decides (db.env arguments key r) (hasVersion index) (some (r.version == v)) := by
  have hcolumn : eval (db.env arguments key r) (.column versionColumn) =
      .ok (some (.integer r.version.toInt)) := by
    simp [eval, env, versionColumn, idColumn]
  have hparam : eval (db.env arguments key r) (.param ⟨index, none⟩) =
      .ok (some (.integer v.toInt)) := by
    simp only [eval, Env.param, env, hv]
    rfl
  have hequal : (compare r.version.toInt v.toInt == .eq) = (r.version == v) := by
    rw [Bool.eq_iff_iff, beq_iff_eq, beq_iff_eq, compare_eq_iff_eq, Int64.toInt_inj]
  exact decides_compare hcolumn hparam (congrArg (fun b => Except.ok (some b)) hequal)

theorem fits_of_decides {filter : Expr} {r : Stored} {b : Bool}
    (h : Decides (db.env arguments id r) filter (some b)) :
    db.fits arguments filter id r = .ok b := by
  unfold Decides at h
  simp only [fits, h, bind, Except.bind, truthOf_ofTruth]
  cases b <;> rfl

/-- At most one row has an identity. -/
theorem filter_key {entries : Entries Stored} (h : entries.Sorted) (p : Stored → Bool) :
    entries.filter (fun e => e.1 == id && p e.2) =
      ((entries.get? id).filter p).toList.map fun r => (id, r) := by
  induction entries with
  | nil => rfl
  | cons e rest ih =>
    obtain ⟨key, r⟩ := e
    obtain ⟨hlt, hrest⟩ := List.pairwise_cons.1 h
    rw [List.filter_cons, ih hrest, Entries.get?]
    by_cases hkey : key = id
    · subst hkey
      rw [Entries.get?_eq_none_of_lt hlt]
      cases hp : p r <;> simp [hp, Option.filter]
    · simp [hkey]

/-- The row with an identity, if it is as wanted. -/
theorem matching_key {filter : Expr} (p : Stored → Bool)
    (h : ∀ key r, Decides (db.env arguments key r) filter (some (key == id && p r))) :
    db.matching arguments filter t.entries =
      .ok (((t.get? id).filter p).toList.map fun r => (id, r)) := by
  have hfits : ∀ key r, db.fits arguments filter key r = .ok (key == id && p r) :=
    fun key r => fits_of_decides (h key r)
  rw [matching_eq_filter (p := fun e => e.1 == id && p e.2) hfits, filter_key t.sorted]
  rfl

theorem matching_hasId (h : placed arguments index = some (.text id)) :
    db.matching arguments (hasId index) t.entries =
      .ok ((t.get? id).toList.map fun r => (id, r)) := by
  have hfits : ∀ key r, Decides (db.env arguments key r) (hasId index) (some (key == id && true)) :=
    fun key r => by
      rw [Bool.and_true]
      exact decides_hasId h key r
  rw [matching_key (fun _ => true) hfits]
  cases t.get? id <;> rfl

theorem matching_hasVersion (hid : placed arguments index = some (.text id))
    (hv : placed arguments (index + 1) = some (.int v)) :
    db.matching arguments (.junction .and (hasId index) (hasVersion (index + 1))) t.entries =
      .ok (((t.get? id).filter fun r => r.version == v).toList.map fun r => (id, r)) := by
  refine matching_key (fun r => r.version == v) fun key r => ?_
  have hjoin : Truth.join .and (some (key == id)) (some (r.version == v)) =
      some (key == id && r.version == v) := by
    cases key == id <;> cases r.version == v <;> rfl
  rw [← hjoin]
  exact decides_junction .and (decides_hasId hid key r) (decides_hasVersion hv key r)

end Matching

/-! ## The requests of a store -/

section Requests

open Database

variable {db : Database} {t : Rows} {table id : String} {columns : List String}
  {record : List Argument} {v : Int64}

theorem values?_cellsFrom {arguments : List Argument} {next : Nat}
    (h : ∀ i a, (presentArguments record)[i]? = some a → placed arguments (next + i) = some a) :
    values? arguments (cellsFrom next record) = some record := by
  induction record generalizing next with
  | nil => rfl
  | cons a record ih =>
    cases hnull : a.isNull with
    | true =>
      have ha : a = .null := by
        cases a <;> first | rfl | cases hnull
      have hpresent : presentArguments (a :: record) = presentArguments record := by
        simp [presentArguments, hnull]
      rw [hpresent] at h
      rw [cellsFrom, if_pos hnull, values?, ih h, ha]
      rfl
    | false =>
      have hpresent : presentArguments (a :: record) = a :: presentArguments record := by
        simp [presentArguments, hnull]
      rw [hpresent] at h
      have hfirst : placed arguments next = some a := h 0 a rfl
      have hrest : ∀ i b, (presentArguments record)[i]? = some b →
          placed arguments (next + 1 + i) = some b := by
        intro i b hb
        rw [Nat.add_assoc, Nat.add_comm 1 i]
        exact h (i + 1) b hb
      rw [cellsFrom, hnull, if_neg Bool.false_ne_true, values?, ih hrest, value?, hfirst]

theorem length_cellsFrom (next : Nat) (record : List Argument) :
    (cellsFrom next record).length = record.length := by
  induction record generalizing next with
  | nil => rfl
  | cons a record ih =>
    rw [cellsFrom]
    split <;> simp [ih]

theorem placed_append {as t : List Argument} {i : Nat} {a : Argument} (h : as[i]? = some a) :
    placed (as ++ t) (1 + i) = some a := by
  have hindex : 1 + i - 1 = i := by omega
  have hlt : i < as.length := (List.getElem?_eq_some_iff.1 h).1
  rw [placed, if_neg (by omega), hindex, List.getElem?_append_left hlt, h]

/-- Cells that are numbered from 1 are the record again. -/
theorem values?_record (record : List Argument) :
    values? (presentArguments record) (cellsFrom 1 record) = some record := by
  refine values?_cellsFrom fun i a ha => ?_
  have hplaced := placed_append ha (t := [])
  rwa [List.append_nil] at hplaced

/-- What is known of the record of an entity: a value for each column, and the identity and the
version in theirs. -/
structure Describes (columns : List String) (record : List Argument) (id : String) (v : Int64) :
    Prop where
  length : record.length = columns.length
  distinct : columns.Nodup
  identity : (columns.zip record).lookup idColumn = some (.text id)
  version : (columns.zip record).lookup versionColumn = some (.int v)

theorem execute_insert (h : Describes columns record id v) :
    db.execute t (insertRequest table columns record) =
      match t.get? id with
      | some _ => (t, .failed DatabaseFault.uniqueViolation (db.duplicate id))
      | none =>
        (t.insert id ⟨v, overwrite (fun _ => .null) (assigned columns record)⟩, .affected 1) := by
  simp only [execute, insertRequest, values?_record, insertRow, h.identity, h.version]

theorem execute_update :
    db.execute t (updateRequest table columns record id v) =
      match (t.get? id).filter fun r => r.version == v with
      | none => (t, .rows [])
      | some r =>
        if v = Int64.maxValue then (t, outOfRange)
        else (t.insert id ⟨v + 1, overwrite r.cells (assigned columns record)⟩, .int (v + 1)) := by
  set pairs := assigned columns record with hpairs
  set values := pairs.map Prod.snd with hvalues
  set present := presentArguments values with hpresent
  have hlength : (pairs.map Prod.fst).length = (cellsFrom 1 values).length := by
    rw [length_cellsFrom, hvalues, List.length_map, List.length_map]
  have hcells : ((pairs.map Prod.fst).zip (cellsFrom 1 values)).map Prod.snd =
      cellsFrom 1 values := List.map_snd_zip hlength.ge
  have hnames : ((pairs.map Prod.fst).zip (cellsFrom 1 values)).map Prod.fst =
      pairs.map Prod.fst := List.map_fst_zip hlength.le
  have hzip : (pairs.map Prod.fst).zip values = pairs := (List.zip_of_prod rfl rfl).symm
  have hwritten : values? (present ++ [.text id, .int v]) (cellsFrom 1 values) = some values :=
    values?_cellsFrom fun i a ha => placed_append ha
  have hid : placed (present ++ [.text id, .int v]) (present.length + 1) = some (.text id) := by
    simp [placed]
  have hv : placed (present ++ [.text id, .int v]) (present.length + 1 + 1) = some (.int v) := by
    simp [placed]
  simp only [execute, updateRequest, ← hpairs, ← hvalues, ← hpresent, hcells, hnames, hwritten,
    matching_hasVersion hid hv, hzip]
  cases hrow : (t.get? id).filter fun r => r.version == v with
  | none => rfl
  | some r =>
    have hr : r.version = v := by
      simpa using (Option.filter_eq_some_iff.1 hrow).2
    simp only [Option.toList_some, List.map_cons, List.map_nil, updateRows, bump, hr]
    by_cases hmax : v = Int64.maxValue
    · rw [if_pos hmax, if_pos hmax]
    · simp only [if_neg hmax, hr]

theorem execute_existence :
    db.execute t ⟨.existence table (hasId 1), [.text id]⟩ = (t, .bool (t.get? id).isSome) := by
  have hid : placed [.text id] 1 = some (.text id) := rfl
  simp only [execute, matching_hasId hid]
  cases t.get? id <;> rfl

theorem execute_select (selection : Selection) :
    db.execute t ⟨.select selection table (hasId 1) false .all, [.text id]⟩ =
      (t, .rows ((t.get? id).toList.map (db.present selection id))) := by
  have hid : placed [.text id] 1 = some (.text id) := rfl
  simp only [execute, matching_hasId hid, List.map_map]
  rfl

theorem execute_delete :
    db.execute t ⟨.delete table (hasId 1), [.text id]⟩ =
      (without t ((t.get? id).toList.map fun r => (id, r)),
        .affected (t.get? id).toList.length) := by
  have hid : placed [.text id] 1 = some (.text id) := rfl
  simp only [execute, matching_hasId hid, List.length_map]

end Requests

/-! ## What is written -/

section Written

variable {columns : List String} {record : List Argument} {cells : String → Argument}
  {column : String} {a : Argument}

open Database

theorem lookup_of_mem {values : List (String × Argument)} (h : (values.map Prod.fst).Nodup)
    (hmem : (column, a) ∈ values) : values.lookup column = some a := by
  induction values with
  | nil => cases hmem
  | cons e rest ih =>
    obtain ⟨name, b⟩ := e
    obtain ⟨hnew, hrest⟩ := List.nodup_cons.1 h
    rw [List.lookup_cons]
    rcases List.mem_cons.1 hmem with heq | hmem
    · cases heq
      simp
    · have hne : (column == name) = false := by
        rw [beq_eq_false_iff_ne]
        intro heq
        exact hnew (List.mem_map.2 ⟨_, hmem, heq⟩)
      rw [hne, ih hrest hmem]

theorem mem_assigned : (column, a) ∈ assigned columns record ↔
    (column, a) ∈ columns.zip record ∧ column ≠ idColumn ∧ column ≠ versionColumn := by
  simp [assigned, List.mem_filter]

theorem nodup_zip (h : columns.Nodup) (hlength : record.length = columns.length) :
    ((columns.zip record).map Prod.fst).Nodup := by
  rwa [List.map_fst_zip hlength.ge]

theorem nodup_assigned (h : columns.Nodup) (hlength : record.length = columns.length) :
    ((assigned columns record).map Prod.fst).Nodup :=
  (List.Sublist.map _ List.filter_sublist).nodup (nodup_zip h hlength)

/-- Every other column of a record is written. -/
theorem overwrite_assigned (h : columns.Nodup) (hlength : record.length = columns.length)
    (hmem : (column, a) ∈ assigned columns record) :
    overwrite cells (assigned columns record) column = a := by
  rw [overwrite, lookup_of_mem (nodup_assigned h hlength) hmem, Option.getD_some]

/-- A column that is not written stays as it is. -/
theorem overwrite_other (h : column ∉ columns) :
    overwrite cells (assigned columns record) column = cells column := by
  have hnone : (assigned columns record).lookup column = none := by
    rw [List.lookup_eq_none_iff]
    rintro ⟨name, b⟩ hmem
    have hname : name ∈ columns := (List.of_mem_zip (List.mem_of_mem_filter hmem)).1
    exact bne_iff_ne.2 fun heq => h (heq ▸ hname)
  rw [overwrite, hnone, Option.getD_none]

theorem get?_without (t : Rows) (found : Entries Stored) (id : String) :
    (without t found).get? id = if found.any (fun f => f.1 == id) then none else t.get? id := by
  unfold without Dict.get?
  simp only
  induction t.entries with
  | nil => simp [Entries.get?]
  | cons e rest ih =>
    obtain ⟨key, r⟩ := e
    rw [List.filter_cons]
    by_cases hkey : key = id
    · subst hkey
      cases hfound : found.any fun f => f.1 == key with
      | true => simpa [hfound] using ih
      | false => simp [Entries.get?]
    · cases hfound : found.any fun f => f.1 == key with
      | true => simpa [Entries.get?, hkey] using ih
      | false => simpa [Entries.get?, hkey] using ih

end Written

end Sieve
