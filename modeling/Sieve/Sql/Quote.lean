import Sieve.Text.Search

/-!
# Sieve.Sql.Quote

Names and texts inside SQL. A quoted text ends at the first quote that is not doubled; a backslash
is an ordinary character there.

* `identifier` leaves a plain lower-case name as it is and quotes any other.
* `unclosed` reads back what `enclosed` writes: `unclosed_doubled`.
* `likeEscaped` makes a text stand for itself in a pattern.
-/

namespace Sieve
namespace Sql

def startsBare (c : Char) : Bool := c.isLower || c == '_'

def continuesBare (c : Char) : Bool := c.isLower || c.isDigit || c == '_'

/-- A name that can stand without quotes. -/
def isBare (name : String) : Bool :=
  match name.toList with
  | [] => false
  | c :: cs => startsBare c && cs.all continuesBare

/-- Every quote written twice. -/
def doubled (quote : Char) : List Char → List Char
  | [] => []
  | c :: cs => if c = quote then quote :: quote :: doubled quote cs else c :: doubled quote cs

def enclosed (quote : Char) (cs : List Char) : List Char := quote :: doubled quote cs ++ [quote]

/-- The text up to the closing quote, and what follows it. -/
def unclosed (quote : Char) : List Char → Option (List Char × List Char)
  | [] => none
  | [c] => if c = quote then some ([], []) else none
  | c :: d :: rest =>
    if c = quote then
      if d = quote then (unclosed quote rest).map fun (text, after) => (quote :: text, after)
      else some ([], d :: rest)
    else (unclosed quote (d :: rest)).map fun (text, after) => (c :: text, after)

theorem unclosed_cons {quote c : Char} (h : c ≠ quote) (cs : List Char) :
    unclosed quote (c :: cs) =
      (unclosed quote cs).map fun (text, after) => (c :: text, after) := by
  cases cs <;> simp [unclosed, h]

theorem unclosed_doubled (quote : Char) (cs : List Char) {rest : List Char}
    (h : rest.head? ≠ some quote) :
    unclosed quote (doubled quote cs ++ quote :: rest) = some (cs, rest) := by
  induction cs with
  | nil =>
    cases rest with
    | nil => simp [doubled, unclosed]
    | cons d rest => simp_all [doubled, unclosed]
  | cons c cs ih =>
    by_cases hc : c = quote
    · subst hc; simp [doubled, unclosed, ih]
    · simp [doubled, hc, unclosed_cons hc, ih]

def quotedName (name : String) : String := String.ofList (enclosed '"' name.toList)

def identifier (name : String) : String := if isBare name then name else quotedName name

/-- A name of several parts with points between them, each written as an identifier. -/
def qualified (name : String) : String :=
  ".".intercalate ((Text.split '.' name.toList).map fun part => identifier (String.ofList part))

def literal (s : String) : String := String.ofList (enclosed '\x27' s.toList)

/-- A character with a meaning in patterns. -/
def isPatternChar (c : Char) : Bool := c == '\\' || c == '%' || c == '_'

def escapedChar (c : Char) : List Char := if isPatternChar c then ['\\', c] else [c]

/-- A pattern that only the text itself matches. -/
def likeEscaped (s : String) : String := String.ofList (s.toList.flatMap escapedChar)

end Sql
end Sieve
