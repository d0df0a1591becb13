/-!
# Sieve.Store.Error

Why an operation on a store failed, and the text that says so.
-/

namespace Sieve

/-- What a database answers instead of rows. -/
inductive DatabaseFault where
  | refused (code : String) (message : String)
  /-- A row was needed and none came. -/
  | noRow
  /-- The first column is of another type than the one asked for. -/
  | otherType

namespace DatabaseFault

/-- The code for a value that has to be unique and is not. -/
def uniqueViolation : String := "23505"

def message : DatabaseFault → String
  | .refused _ message => "error returned from database: " ++ message
  | .noRow => "no rows returned by a query that expected to return at least one row"
  | .otherType => "error occurred while decoding column 0"

/-- The fault and what is behind it. -/
def texts : DatabaseFault → List String
  | .refused code message => [(refused code message).message, message]
  | f => [f.message]

end DatabaseFault

inductive StoreError where
  /-- A row came whose document cannot be read. -/
  | unreadableRow
  | query (operation table : String) (id : Option String) (cause : DatabaseFault)
  | noSuchId (table id : String)
  | noneMatches (table predicate : String)
  | duplicate (operation table message : String)
  | staleVersion (table id : String) (expected : Int64)
  | recordLength (table : String) (values columns : Nat)
  | readOnly

namespace StoreError

def message : StoreError → String
  | .unreadableRow => "Database error: " ++ DatabaseFault.otherType.message
  | .query operation table id cause =>
    operation ++ " on " ++ table ++ " (id: " ++ id.getD "-" ++ ") failed: " ++ cause.message
  | .noSuchId table id => "Not found: " ++ table ++ " " ++ id
  | .noneMatches table predicate => "Not found: " ++ table ++ ": no row matches " ++ predicate
  | .duplicate operation table message =>
    "Conflict: " ++ operation ++ " on " ++ table ++ ": " ++ message
  | .staleVersion table id expected =>
    "Conflict: " ++ table ++ " " ++ id ++ ": expected version " ++ toString expected.toInt
  | .recordLength table values columns =>
    "Internal: " ++ table ++ ": mapper produced " ++ toString values ++ " values for " ++
      toString columns ++ " columns"
  | .readOnly => "Internal: document rows are read-only"

/-- The error and what is behind it, from the outside in. -/
def texts : StoreError → List String
  | .unreadableRow => [unreadableRow.message, DatabaseFault.otherType.message]
  | .query operation table id cause => (query operation table id cause).message :: cause.texts
  | e => [e.message]

end StoreError

end Sieve
