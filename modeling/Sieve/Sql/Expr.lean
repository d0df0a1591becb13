import Sieve.Operator
import Sieve.Sql.Token

/-!
# Sieve.Sql.Expr

SQL expressions over the columns of a row, the bound arguments and the elements of a JSON array.
Parentheses are part of an expression, so an expression determines its text token by token.

* `Expr.tokens` writes an expression.
* `paramsOf` lists the placeholders of a list of tokens, from left to right.
-/

namespace Sieve
namespace Sql

inductive SqlType where
  | numeric
  | text
  | jsonb
  deriving DecidableEq, Repr

def SqlType.name : SqlType → String
  | .numeric => "numeric"
  | .text => "text"
  | .jsonb => "jsonb"

/-- A placeholder, cast to a type if one is given. -/
structure Param where
  index : Nat
  type : Option SqlType
  deriving DecidableEq, Repr

inductive Expr where
  | truth (b : Bool)
  | column (name : String)
  /-- The element that a search in an array is looking at. -/
  | element
  | param (p : Param)
  | string (s : String)
  /-- The document at a key of a document. -/
  | member (doc : Expr) (key : String)
  /-- The text of what stands at a key of a document. -/
  | memberText (doc : Expr) (key : String)
  /-- The text of a whole document. -/
  | wholeText (doc : Expr)
  /-- The name of the kind of a document. -/
  | kind (doc : Expr)
  | cast (e : Expr) (type : SqlType)
  /-- A text that is compared byte by byte. -/
  | bytewise (e : Expr)
  | compare (op : Comparison) (a b : Expr)
  | isNull (negated : Bool) (e : Expr)
  | distinct (a b : Expr)
  | like (negated : Bool) (e pattern : Expr)
  | among (negated : Bool) (e : Expr) (items : List Param)
  /-- The first document has everything that the second one has. -/
  | includes (a b : Expr)
  | junction (c : Conjunction) (a b : Expr)
  | choose (condition yes no : Expr)
  /-- Null unless the condition holds. -/
  | whenever (condition yes : Expr)
  /-- Some element of an array satisfies the condition. -/
  | someElement (array condition : Expr)
  | paren (e : Expr)
  deriving DecidableEq, Repr

def comparisonMark : Comparison → String
  | .ne => "<>"
  | op => (Operator.comparison op).token

def negatable (negated : Bool) (word : String) : List Token :=
  if negated then words ["NOT", word] else [.word word]

namespace Param

def tokens (p : Param) : List Token :=
  .param p.index ::
    match p.type with
    | none => []
    | some type => [.mark "::", .word type.name]

end Param

namespace Expr

def tokens : Expr → List Token
  | .truth b => [.word (if b then "true" else "false")]
  | .column name => [.named name]
  | .element => [.word "elem", .mark ".", .word "value"]
  | .param p => p.tokens
  | .string s => [.string s]
  | .member doc key => doc.tokens ++ [.mark "->", .string key]
  | .memberText doc key => doc.tokens ++ [.mark "->>", .string key]
  | .wholeText doc => doc.tokens ++ [.blank, .mark "#>>", .blank, .string "\x7b\x7d"]
  | .kind doc => .word "jsonb_typeof" :: inParens doc.tokens
  | .cast e type => e.tokens ++ [.mark "::", .word type.name]
  | .bytewise e => e.tokens ++ [.blank, .word "COLLATE", .blank, .quoted "C"]
  | .compare op a b => a.tokens ++ [.blank, .mark (comparisonMark op), .blank] ++ b.tokens
  | .isNull negated e =>
    e.tokens ++ .blank :: .word "IS" :: .blank :: negatable negated "NULL"
  | .distinct a b => a.tokens ++ .blank :: words ["IS", "DISTINCT", "FROM"] ++ .blank :: b.tokens
  | .like negated e pattern =>
    e.tokens ++ .blank :: negatable negated "LIKE" ++ .blank :: pattern.tokens ++
      [.blank, .word "ESCAPE", .blank, .string "\\"]
  | .among negated e items =>
    e.tokens ++ .blank :: negatable negated "IN" ++ .blank ::
      inParens (listed (items.map Param.tokens))
  | .includes a b => a.tokens ++ [.blank, .mark "@>", .blank] ++ b.tokens
  | .junction c a b => a.tokens ++ [.blank, .word c.token, .blank] ++ b.tokens
  | .choose condition yes no =>
    words ["CASE", "WHEN"] ++ .blank :: condition.tokens ++ [.blank, .word "THEN", .blank] ++
      yes.tokens ++ [.blank, .word "ELSE", .blank] ++ no.tokens ++ [.blank, .word "END"]
  | .whenever condition yes =>
    words ["CASE", "WHEN"] ++ .blank :: condition.tokens ++ [.blank, .word "THEN", .blank] ++
      yes.tokens ++ [.blank, .word "END"]
  | .someElement array condition =>
    .word "EXISTS" :: .blank :: inParens (
      [.word "SELECT", .blank, .number 1, .blank, .word "FROM", .blank,
        .word "jsonb_array_elements"] ++ inParens array.tokens ++
      [.blank, .word "AS", .blank, .word "elem", .mark "(", .word "value", .mark ")", .blank,
        .word "WHERE", .blank] ++ condition.tokens)
  | .paren e => inParens e.tokens

def text (e : Expr) : String := textOf e.tokens

end Expr

/-- The placeholders among tokens, from left to right. -/
def paramsOf (tokens : List Token) : List Nat :=
  tokens.filterMap fun
    | .param index => some index
    | _ => none

end Sql
end Sieve
