import Sieve.Store.Operation

/-!
# Sieve.Store.Mapper

How entities are read from rows and written as records.

* `Mapper.documents`: rows of any table as documents, for reading only.
* `Mapper.byColumns`: documents whose members are the columns of a table.
-/

namespace Sieve

structure Mapper (α : Type) where
  /-- Every column that is written. -/
  columns : List String
  selection : String → Sql.Selection
  read : Row → Except StoreError α
  /-- A value for each column. -/
  record : α → Except StoreError (List Sql.Argument)
  idOf : α → String
  versionOf : α → Int64

namespace Mapper

def readDocument (row : Row) : Except StoreError Json :=
  match row.document? with
  | some j => .ok j
  | none => .error .unreadableRow

/-- The identity of a document: a text as it is, anything else as JSON, nothing at all as no text.
-/
def documentId (j : Json) : String :=
  match j.member? Sql.idColumn with
  | some (.text id) => id
  | some other => other.compact
  | none => ""

/-- The version of a document; one without a version has version zero. -/
def documentVersion (j : Json) : Int64 := ((j.member? Sql.versionColumn).bind Json.int64?).getD 0

def documents : Mapper Json where
  columns := []
  selection := .document
  read := readDocument
  record _ := .error .readOnly
  idOf := documentId
  versionOf := documentVersion

/-- What is stored of a member: containers as documents with lower-case keys, all else as it is. -/
def memberArgument : Option Json → Sql.Argument
  | none => .null
  | some (.object members) => .document (.object members)
  | some (.array items) => .document (.array items)
  | some j => .ofValue (Value.ofDocument j)

def byColumns (columns : List String) : Mapper Json where
  columns := columns
  selection _ := .columns columns
  read := readDocument
  record j := .ok (columns.map fun column => memberArgument (j.member? column))
  idOf j := ((j.member? Sql.idColumn).bind Json.text?).getD ""
  versionOf := documentVersion

end Mapper

end Sieve
