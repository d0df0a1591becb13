import Sieve.Predicate.Expression
import Sieve.Predicate.Printer
import Sieve.Predicate.Wire

/-!
# Sieve.Predicate.Input

Predicates as a user gives them: JSON or an expression. Without a word about the format, a text that
starts with a brace is taken for JSON.
-/

namespace Sieve

inductive InputFormat where
  | auto
  | json
  | text
  deriving DecidableEq, Repr

/-- A text that holds no predicate in the format it was read in. -/
structure InputFault where
  asJson : Bool
  cause : PredicateError

def InputFault.message (f : InputFault) : String :=
  if f.asJson then "invalid predicate JSON" else "invalid predicate expression"

/-- Whether a text is to be read as JSON. -/
def InputFormat.takesJson (format : InputFormat) (s : String) : Bool :=
  match format with
  | .auto => s.toList.head? == some '\x7b'
  | .json => true
  | .text => false

namespace Predicate

def readInput (s : String) (format : InputFormat) : Except InputFault Predicate :=
  let s := Text.trim s
  if format.takesJson s then (readJson s).mapError fun e => ⟨true, e⟩
  else (parse s).mapError fun e => ⟨false, e⟩

/-- The document of a predicate, and its expression on the line after it. -/
def describe (p : Predicate) : String := p.toJson.pretty ++ "\n" ++ p.text

end Predicate

end Sieve
