import Sieve.Predicate.Printer
import Sieve.Sql.Compile
import Sieve.Store.Mapper
import Sieve.Store.Page

/-!
# Sieve.Store

A table of entities, searched by predicates. Every operation sends one statement; a page needs a
second one after the count, and an update that touched no row asks whether the row exists.
-/

namespace Sieve

structure Store (α : Type) where
  table : String
  mapper : Mapper α
  catalog : Sql.Catalog
  maxPageSize : UInt64

/-- The values to write as cells and the arguments of the cells: a null takes no argument. -/
def cellsFrom (next : Nat) : List Sql.Argument → List Sql.Cell
  | [] => []
  | a :: as =>
    if a.isNull then .null :: cellsFrom next as else .param next :: cellsFrom (next + 1) as

def presentArguments (record : List Sql.Argument) : List Sql.Argument :=
  record.filter fun a => !a.isNull

def insertRequest (table : String) (columns : List String) (record : List Sql.Argument) :
    Request where
  statement := .insert table columns (cellsFrom 1 record)
  arguments := presentArguments record

/-- The columns that an update assigns, with their values. -/
def assigned (columns : List String) (record : List Sql.Argument) : List (String × Sql.Argument) :=
  (columns.zip record).filter fun (column, _) =>
    column != Sql.idColumn && column != Sql.versionColumn

/-- Writes every other column of the row with an identity and an expected version. -/
def updateRequest (table : String) (columns : List String) (record : List Sql.Argument)
    (id : String) (expected : Int64) : Request :=
  let pairs := assigned columns record
  let values := pairs.map Prod.snd
  let present := presentArguments values
  let next := present.length + 1
  { statement :=
      .update table ((pairs.map Prod.fst).zip (cellsFrom 1 values))
        (.junction .and (Sql.hasId next) (Sql.hasVersion (next + 1)))
    arguments := present ++ [.text id, .int expected] }

/-- How a predicate is named in an error; without one every row is meant. -/
def describePredicate : Option Predicate → String
  | some p => p.text
  | none => "*"

namespace Store

/-- A store of documents for reading only. -/
def documents (table : String) (catalog : Sql.Catalog) (maxPageSize : UInt64) : Store Json :=
  ⟨table, .documents, catalog, maxPageSize⟩

/-- The error of a statement that the database refused. -/
def fault (s : Store α) (operation : String) (id : Option String) (cause : DatabaseFault) :
    StoreError :=
  match cause with
  | .refused code message =>
    if code = DatabaseFault.uniqueViolation then .duplicate operation s.table message
    else .query operation s.table id cause
  | _ => .query operation s.table id cause

/-- Sends a request and goes on with what its reply says. -/
def ask (s : Store α) (operation : String) (id : Option String) (request : Request)
    (understand : Reply → Except DatabaseFault β) : Operation β :=
  .send request fun reply => .done ((understand reply).mapError (s.fault operation id))

/-- The value of the one row that has to come. -/
def required (understand : Reply → Except DatabaseFault (Option β)) (reply : Reply) :
    Except DatabaseFault β :=
  match understand reply with
  | .error e => .error e
  | .ok (some b) => .ok b
  | .ok none => .error .noRow

def filter (s : Store α) : Option Predicate → Sql.Compiled
  | some p => Sql.compile s.catalog p
  | none => .matchAll

/-- The rows that satisfy a condition, in the order of their identities. -/
def selectWhere (s : Store α) (c : Sql.Compiled) (extent : Sql.Extent) : Sql.Statement :=
  .select (s.mapper.selection s.table) s.table c.condition true extent

def readRows (s : Store α) : List Row → Except StoreError (List α)
  | [] => .ok []
  | row :: rows => do
    let a ← s.mapper.read row
    let as ← s.readRows rows
    return a :: as

def readRow? (s : Store α) : List Row → Except StoreError (Option α)
  | [] => .ok none
  | row :: _ => (s.mapper.read row).map some

/-- The values of an entity, one for each column. -/
def recordOf (s : Store α) (a : α) : Except StoreError (List Sql.Argument) :=
  match s.mapper.record a with
  | .error e => .error e
  | .ok record =>
    if record.length = s.mapper.columns.length then .ok record
    else .error (.recordLength s.table record.length s.mapper.columns.length)

def findById (s : Store α) (id : String) : Operation (Option α) :=
  let statement :=
    Sql.Statement.select (s.mapper.selection s.table) s.table (Sql.hasId 1) false .all
  (s.ask "find_by_id" (some id) ⟨statement, [.text id]⟩ Reply.rows?).andThen fun rows =>
    .done (s.readRow? rows)

def contains (s : Store α) (id : String) : Operation Bool :=
  s.ask "exists" (some id) ⟨.existence s.table (Sql.hasId 1), [.text id]⟩ (required Reply.bool?)

def create (s : Store α) (a : α) : Operation Unit :=
  match s.recordOf a with
  | .error e => .done (.error e)
  | .ok record =>
    (s.ask "create" (some (s.mapper.idOf a)) (insertRequest s.table s.mapper.columns record)
      Reply.affected?).map fun _ => ()

/-- Writes an entity over the row of its identity, if that still has the entity's version, and
returns the new version. -/
def update (s : Store α) (a : α) : Operation Int64 :=
  match s.recordOf a with
  | .error e => .done (.error e)
  | .ok record =>
    let id := s.mapper.idOf a
    let expected := s.mapper.versionOf a
    (s.ask "update" (some id) (updateRequest s.table s.mapper.columns record id expected)
      Reply.int?).andThen fun
      | some version => .done (.ok version)
      | none =>
        (s.contains id).andThen fun present =>
          .done (.error
            (if present then .staleVersion s.table id expected else .noSuchId s.table id))

def delete (s : Store α) (id : String) : Operation Unit :=
  (s.ask "delete" (some id) ⟨.delete s.table (Sql.hasId 1), [.text id]⟩ Reply.affected?).andThen
    fun count => .done (if count = 0 then .error (.noSuchId s.table id) else .ok ())

def find (s : Store α) (p : Option Predicate) : Operation (List α) :=
  let c := s.filter p
  (s.ask "find_by_predicate" none ⟨s.selectWhere c .all, c.arguments⟩ Reply.rows?).andThen
    fun rows => .done (s.readRows rows)

def count (s : Store α) (p : Option Predicate) : Operation Int64 :=
  let c := s.filter p
  s.ask "count_by_predicate" none ⟨.count s.table c.condition, c.arguments⟩ (required Reply.int?)

/-- One page of the rows that satisfy a predicate, and their number. -/
def findPage (s : Store α) (p : Option Predicate) (request : PageRequest) : Operation (Page α) :=
  let request := request.clamped s.maxPageSize
  (s.count p).andThen fun total =>
    let c := s.filter p
    let next := c.arguments.length + 1
    let arguments := c.arguments ++
      [.int (Saturating.toInt64 request.limit), .int (Saturating.toInt64 request.offset)]
    (s.ask "find_by_predicate_paginated" none
      ⟨s.selectWhere c (.page next (next + 1)), arguments⟩ Reply.rows?).andThen fun rows =>
        .done ((s.readRows rows).map fun items => ⟨items, total, request.offset, request.limit⟩)

def findFirst (s : Store α) (p : Option Predicate) : Operation α :=
  let c := s.filter p
  (s.ask "find_first_by_predicate" none ⟨s.selectWhere c .first, c.arguments⟩ Reply.rows?).andThen
    fun rows =>
      match s.readRow? rows with
      | .error e => .done (.error e)
      | .ok (some a) => .done (.ok a)
      | .ok none => .done (.error (.noneMatches s.table (describePredicate p)))

/-- Deletes the rows that satisfy a predicate and returns their number. -/
def deleteWhere (s : Store α) (p : Option Predicate) : Operation Nat :=
  let c := s.filter p
  (s.ask "delete_by_predicate" none ⟨.delete s.table c.condition, c.arguments⟩
    Reply.affected?).andThen fun count =>
      .done (if count = 0 then .error (.noneMatches s.table (describePredicate p)) else .ok count)

end Store

end Sieve
