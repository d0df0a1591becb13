import Sieve.Sql.Quote

/-!
# Sieve.Sql.Token

The tokens of SQL text and the blanks between them. Names and texts are held by what they stand for;
`Token.chars` writes them, quoted where they need it.
-/

namespace Sieve
namespace Sql

inductive Token where
  | word (s : String)
  | quoted (name : String)
  | string (s : String)
  | param (index : Nat)
  | number (n : Nat)
  | mark (s : String)
  | blank
  deriving DecidableEq, Repr

namespace Token

/-- A name, as a word if it can stand without quotes. -/
def named (name : String) : Token := if isBare name then .word name else .quoted name

def chars : Token → List Char
  | .word s => s.toList
  | .quoted name => enclosed '"' name.toList
  | .string s => enclosed '\x27' s.toList
  | .param index => '$' :: Nat.toDigits 10 index
  | .number n => Nat.toDigits 10 n
  | .mark s => s.toList
  | .blank => [' ']

theorem chars_named (name : String) : (named name).chars = (identifier name).toList := by
  unfold named identifier quotedName
  split <;> simp [chars]

end Token

def textOf (tokens : List Token) : String := String.ofList (tokens.flatMap Token.chars)

/-- Words with blanks between them. -/
def words : List String → List Token
  | [] => []
  | [s] => [.word s]
  | s :: more => .word s :: .blank :: words more

/-- Lists of tokens with a comma and a blank between them. -/
def listed : List (List Token) → List Token
  | [] => []
  | [ts] => ts
  | ts :: more => ts ++ .mark "," :: .blank :: listed more

def inParens (tokens : List Token) : List Token := .mark "(" :: tokens ++ [.mark ")"]

/-- A name of several parts with points between them. -/
def qualifiedTokens (name : String) : List Token :=
  let parts := (Text.split '.' name.toList).map fun part => Token.named (String.ofList part)
  parts.intersperse (.mark ".")

end Sql
end Sieve
