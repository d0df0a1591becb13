import Sieve.Json
import Sieve.Number.Layout

/-!
# Sieve.Json.Printer

JSON text. `Json.compact` writes no blanks; `Json.pretty` puts every item and member on a line of
its own, two blanks deeper than its container. Characters beyond ASCII are written as they are.
-/

namespace Sieve
namespace Json

/-- Numbers are written without an exponent from `0.00001` up to sixteen digits before the point. -/
def numberLayout : Layout where
  plain := some (-5, 16)
  point := true
  plus := true
  tie := .even

def hexDigit (n : Nat) : Char := Nat.digitChar n

/-- A character inside quotes. -/
def escaped (c : Char) : List Char :=
  if c = '"' then ['\\', '"']
  else if c = '\\' then ['\\', '\\']
  else if c = '\x08' then ['\\', 'b']
  else if c = '\x0c' then ['\\', 'f']
  else if c = '\n' then ['\\', 'n']
  else if c = '\r' then ['\\', 'r']
  else if c = '\t' then ['\\', 't']
  else if c.toNat < 0x20 then
    ['\\', 'u', '0', '0', hexDigit (c.toNat / 16), hexDigit (c.toNat % 16)]
  else [c]

def quoted (s : String) : List Char := '"' :: s.toList.flatMap escaped ++ ['"']

def integerChars (n : Int) : List Char :=
  if n < 0 then '-' :: Nat.toDigits 10 n.natAbs else Nat.toDigits 10 n.natAbs

mutual

def chars : Json → List Char
  | .null => "null".toList
  | .bool true => "true".toList
  | .bool false => "false".toList
  | .integer n => integerChars n.val
  | .decimal x => numberLayout.write x.negative (Decimal.shortest numberLayout.tie x)
  | .text s => quoted s
  | .array items => '[' :: itemChars items ++ [']']
  | .object members => '{' :: memberChars members ++ ['}']

/-- Items with commas between them. -/
def itemChars : List Json → List Char
  | [] => []
  | [j] => chars j
  | j :: js => chars j ++ ',' :: itemChars js

def memberChars : List (String × Json) → List Char
  | [] => []
  | [(key, j)] => quoted key ++ ':' :: chars j
  | (key, j) :: ms => quoted key ++ ':' :: chars j ++ ',' :: memberChars ms

end

def compact (j : Json) : String := String.ofList j.chars

/-- A new line at a level of nesting. -/
def newLine (level : Nat) : List Char := '\n' :: List.replicate (2 * level) ' '

mutual

def prettyChars (level : Nat) : Json → List Char
  | .array [] => ['[', ']']
  | .object [] => ['{', '}']
  | .array (j :: js) =>
    '[' :: newLine (level + 1) ++ prettyChars (level + 1) j ++ prettyItems (level + 1) js ++
      newLine level ++ [']']
  | .object ((key, j) :: ms) =>
    '{' :: newLine (level + 1) ++ quoted key ++ ':' :: ' ' :: prettyChars (level + 1) j ++
      prettyMembers (level + 1) ms ++ newLine level ++ ['}']
  | j => chars j

/-- The items after the first. -/
def prettyItems (level : Nat) : List Json → List Char
  | [] => []
  | j :: js => ',' :: newLine level ++ prettyChars level j ++ prettyItems level js

def prettyMembers (level : Nat) : List (String × Json) → List Char
  | [] => []
  | (key, j) :: ms =>
    ',' :: newLine level ++ quoted key ++ ':' :: ' ' :: prettyChars level j ++
      prettyMembers level ms

end

def pretty (j : Json) : String := String.ofList (j.prettyChars 0)

end Json
end Sieve
