import Sieve.Dict
import Sieve.Text.Ascii
import Sieve.Text.Search

/-!
# Sieve.Sql.Catalog

What is known about the columns of a table: which ones hold JSON documents, and which columns the
fields of predicates mean. Names are looked up without regard to the case of ASCII letters; a field
without a mapping means the column of its lower-case name.
-/

namespace Sieve
namespace Sql

/-- How the documents of a column are shaped. -/
inductive DocumentKind where
  | scalar
  | arrayOfScalars
  | arrayOfObjects
  | unknown
  deriving DecidableEq, Repr

namespace DocumentKind

def all : List DocumentKind := [.scalar, .arrayOfScalars, .arrayOfObjects, .unknown]

def name : DocumentKind → String
  | .scalar => "scalar"
  | .arrayOfScalars => "array_of_scalars"
  | .arrayOfObjects => "array_of_objects"
  | .unknown => "unknown"

def isArray : DocumentKind → Bool
  | .arrayOfScalars => true
  | .arrayOfObjects => true
  | _ => false

/-- A name in any case of ASCII letters, with hyphens or low lines. -/
def read? (s : String) : Option DocumentKind :=
  let cs := s.toList.map fun c => if c = '-' then '_' else c.toLower
  all.find? fun kind => kind.name.toList == cs

theorem read?_name (kind : DocumentKind) : read? kind.name = some kind := by
  cases kind <;> decide +kernel

/-- The complaint about a name that is none. -/
def unknownMessage (s : String) : String := "unknown document field type: " ++ s

end DocumentKind

structure Catalog where
  kinds : Dict DocumentKind
  columns : Dict String

namespace Catalog

def empty : Catalog where
  kinds := .empty
  columns := .empty

/-- Registers a column that holds documents. -/
def withDocument (c : Catalog) (column : String) (kind : DocumentKind) : Catalog :=
  { c with kinds := c.kinds.insert (Text.asciiLower column) kind }

/-- Lets a field mean a column. -/
def withMapping (c : Catalog) (field column : String) : Catalog :=
  { c with columns := c.columns.insert (Text.asciiLower field) column }

/-- The kind of the documents in a column, if it holds any. -/
def kind? (c : Catalog) (column : String) : Option DocumentKind :=
  c.kinds.get? (Text.asciiLower column)

def columnFor (c : Catalog) (field : String) : String :=
  let key := Text.asciiLower field
  (c.columns.get? key).getD key

theorem kind?_withDocument (c : Catalog) (column other : String) (kind : DocumentKind) :
    (c.withDocument column kind).kind? other =
      if Text.asciiLower column = Text.asciiLower other then some kind else c.kind? other :=
  Dict.get?_insert ..

theorem columnFor_withMapping (c : Catalog) (field column other : String) :
    (c.withMapping field column).columnFor other =
      if Text.asciiLower field = Text.asciiLower other then column else c.columnFor other := by
  simp only [columnFor, withMapping, Dict.get?_insert]
  split <;> rfl

end Catalog

end Sql
end Sieve
