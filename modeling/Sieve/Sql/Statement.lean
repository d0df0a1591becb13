import Sieve.Sql.Expr

/-!
# Sieve.Sql.Statement

The statements that a table of entities is read and written with. Every table has a column for the
identity of a row and one for its version.
-/

namespace Sieve
namespace Sql

def idColumn : String := "id"

def versionColumn : String := "version"

/-- What a query selects of each row. -/
inductive Selection where
  | columns (names : List String)
  /-- The whole row of a table as a document. -/
  | document (table : String)
  deriving DecidableEq, Repr

/-- How many of the selected rows are wanted. -/
inductive Extent where
  | all
  | first
  /-- Limit and offset are arguments. -/
  | page (limit offset : Nat)
  deriving DecidableEq, Repr

/-- What is written to a column. -/
inductive Cell where
  | null
  | param (index : Nat)
  deriving DecidableEq, Repr

inductive Statement where
  | select (selection : Selection) (table : String) (filter : Expr) (ordered : Bool)
      (extent : Extent)
  | count (table : String) (filter : Expr)
  | existence (table : String) (filter : Expr)
  | insert (table : String) (columns : List String) (cells : List Cell)
  /-- Assigns columns and adds one to the version, which is returned. -/
  | update (table : String) (assignments : List (String × Cell)) (filter : Expr)
  | delete (table : String) (filter : Expr)
  /-- A statement given by its text. -/
  | verbatim (text : String)
  deriving DecidableEq, Repr

def namedList (names : List String) : List Token :=
  listed (names.map fun name => [Token.named name])

namespace Selection

def tokens : Selection → List Token
  | .columns names => namedList names
  | .document table =>
    .word "to_jsonb" :: inParens (qualifiedTokens table ++ [.mark ".", .mark "*"])

end Selection

namespace Cell

def token : Cell → Token
  | .null => .word "NULL"
  | .param index => .param index

end Cell

def assignmentTokens (a : String × Cell) : List Token :=
  [.named a.1, .blank, .mark "=", .blank, a.2.token]

/-- The version of a row goes up by one. -/
def versionStep : List Token :=
  [.named versionColumn, .blank, .mark "=", .blank, .named versionColumn, .blank, .mark "+", .blank,
    .number 1]

def orderTokens (ordered : Bool) : List Token :=
  if ordered then [.blank, .word "ORDER", .blank, .word "BY", .blank, .named idColumn] else []

namespace Extent

def tokens : Extent → List Token
  | .all => []
  | .first => [.blank, .word "LIMIT", .blank, .number 1]
  | .page limit offset =>
    [.blank, .word "LIMIT", .blank, .param limit, .blank, .word "OFFSET", .blank, .param offset]

end Extent

/-- The rows of a table that satisfy a condition. -/
def fromWhere (table : String) (filter : Expr) : List Token :=
  [.word "FROM", .blank] ++ qualifiedTokens table ++ [.blank, .word "WHERE", .blank] ++
    filter.tokens

namespace Statement

def tokens : Statement → List Token
  | .select selection table filter ordered extent =>
    [.word "SELECT", .blank] ++ selection.tokens ++ .blank :: fromWhere table filter ++
      orderTokens ordered ++ extent.tokens
  | .count table filter =>
    [.word "SELECT", .blank, .word "COUNT", .mark "(", .mark "*", .mark ")", .blank] ++
      fromWhere table filter
  | .existence table filter =>
    [.word "SELECT", .blank, .word "EXISTS", .blank] ++
      inParens ([.word "SELECT", .blank, .number 1, .blank] ++ fromWhere table filter)
  | .insert table columns cells =>
    [.word "INSERT", .blank, .word "INTO", .blank] ++ qualifiedTokens table ++ .blank ::
      inParens (namedList columns) ++ [.blank, .word "VALUES", .blank] ++
      inParens (listed (cells.map fun cell => [cell.token]))
  | .update table assignments filter =>
    [.word "UPDATE", .blank] ++ qualifiedTokens table ++ [.blank, .word "SET", .blank] ++
      listed (assignments.map assignmentTokens ++ [versionStep]) ++
      [.blank, .word "WHERE", .blank] ++ filter.tokens ++
      [.blank, .word "RETURNING", .blank, .named versionColumn]
  | .delete table filter => [.word "DELETE", .blank] ++ fromWhere table filter
  | .verbatim text => [.word text]

def text (s : Statement) : String := textOf s.tokens

end Statement

/-- The row with the identity that an argument gives. -/
def hasId (index : Nat) : Expr := .compare .eq (.column idColumn) (.param ⟨index, none⟩)

def hasVersion (index : Nat) : Expr := .compare .eq (.column versionColumn) (.param ⟨index, none⟩)

end Sql
end Sieve
