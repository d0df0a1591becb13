import Sieve.Number.Reader
import Sieve.Predicate.Error

/-!
# Sieve.Predicate.Expression

Predicates written as expressions:

expression := term ((AND | OR) term)*, one conjunction on each level term := '(' expression ')' |
'*' | comparison comparison := path IS [NOT] NULL | path [NOT] IN '(' value, ... ')' | path operator
value value := quoted text | number | TRUE | FALSE | NULL

A reader takes characters from the front of a text; when it fails it returns what it had not yet
taken, so that the error can say how far it came. `Expression.parse` reads the whole of a text,
blanks around it aside, into a `Phrase`, and `Phrase.lower` checks the operands and the
conjunctions.
-/

namespace Sieve
namespace Expression

/-- What an expression says, before its operands are checked. -/
inductive Phrase where
  | all
  | comparison (field : String) (op : Operator) (value : Value)
  | chain (first : Phrase) (more : List (Conjunction × Phrase))

def isBlank (c : Char) : Bool := c == ' ' || c == '\t' || c == '\r' || c == '\n'

def skipBlank (cs : List Char) : List Char := cs.dropWhile isBlank

/-- One blank at least. -/
def blanks (cs : List Char) : Except (List Char) (Unit × List Char) :=
  match cs with
  | c :: rest => if isBlank c then .ok ((), skipBlank rest) else .error cs
  | [] => .error cs

/-- The longest run of characters of a class, not empty. -/
def run (p : Char → Bool) (cs : List Char) : Except (List Char) (List Char × List Char) :=
  match cs.takeWhile p with
  | [] => .error cs
  | taken => .ok (taken, cs.dropWhile p)

def mark (c : Char) (cs : List Char) : Except (List Char) (Unit × List Char) :=
  match cs with
  | d :: rest => if d = c then .ok ((), rest) else .error cs
  | [] => .error cs

def isPathChar (c : Char) : Bool := c.isAlphanum || c == '_' || c == '.'

/-- A path; one that starts with a digit is taken and refused. -/
def path (cs : List Char) : Except (List Char) (String × List Char) := do
  let (taken, rest) ← run isPathChar cs
  match taken with
  | c :: _ => if c.isDigit then .error rest else .ok (String.ofList taken, rest)
  | [] => .error rest

def isWordChar (c : Char) : Bool := c.isAlpha || c == '_'

/-- A word in upper case. -/
def word (cs : List Char) : Except (List Char) (String × List Char) := do
  let (taken, rest) ← run isWordChar cs
  return (String.ofList (taken.map Char.toUpper), rest)

/-- A word that follows blanks. -/
def nextWord (cs : List Char) : Except (List Char) (String × List Char) := do
  let (_, rest) ← blanks cs
  word rest

def symbol? : List Char → Option (Comparison × List Char)
  | '>' :: '=' :: rest => some (.ge, rest)
  | '<' :: '=' :: rest => some (.le, rest)
  | '!' :: '=' :: rest => some (.ne, rest)
  | '=' :: rest => some (.eq, rest)
  | '>' :: rest => some (.gt, rest)
  | '<' :: rest => some (.lt, rest)
  | _ => none

/-- An operator of one word or more. -/
def operatorWords (cs : List Char) : Except (List Char) (Operator × List Char) := do
  let (first, rest) ← word cs
  if first = "IS" then
    let (second, rest) ← nextWord rest
    if second = "NULL" then .ok (.nullness false, rest)
    else if second = "NOT" then
      let (third, rest) ← nextWord rest
      if third = "NULL" then .ok (.nullness true, rest) else .error rest
    else .error rest
  else if first = "NOT" then
    let (second, rest) ← nextWord rest
    if second = "IN" then .ok (.membership true, rest)
    else if second = "LIKE" then .ok (.textual .notLike, rest)
    else .error rest
  else
    match Operator.ofToken? first.toList with
    | some op => .ok (op, rest)
    | none => .error rest

def operator (cs : List Char) : Except (List Char) (Operator × List Char) :=
  match symbol? cs with
  | some (op, rest) => .ok (.comparison op, rest)
  | none => operatorWords cs

/-- The characters up to the closing quote; a backslash takes the next character as it is. -/
def quoted? (quote : Char) : List Char → Option (List Char × List Char)
  | [] => none
  | '\\' :: c :: rest => (quoted? quote rest).map fun (cs, rest) => (c :: cs, rest)
  | c :: rest =>
    if c = quote then some ([], rest)
    else if c = '\\' then none
    else (quoted? quote rest).map fun (cs, rest) => (c :: cs, rest)

def startsNumber (c : Char) : Bool := c.isDigit || c == '-' || c == '+' || c == '.'

def isNumberChar (c : Char) : Bool := startsNumber c || c == 'e' || c == 'E'

/-- With a point or an exponent a binary64 number, else an integer, signed if it fits. -/
def numberValue? (cs : List Char) : Option Scalar :=
  if cs.any fun c => c == '.' || c == 'e' || c == 'E' then (Binary64.read? cs).map .float
  else
    match Int64.read? cs with
    | some n => some (.int n)
    | none => (UInt64.read? cs).map .uint

def wordValue (cs : List Char) : Except (List Char) (Value × List Char) := do
  let (w, rest) ← word cs
  if w = "TRUE" then .ok (.scalar (.bool true), rest)
  else if w = "FALSE" then .ok (.scalar (.bool false), rest)
  else if w = "NULL" then .ok (.null, rest)
  else .error rest

def value (cs : List Char) : Except (List Char) (Value × List Char) :=
  match cs with
  | [] => .error cs
  | c :: rest =>
    if c = '"' ∨ c = '\x27' then
      match quoted? c rest with
      | some (s, rest) => .ok (.scalar (.text (String.ofList s)), rest)
      | none => .error cs
    else if startsNumber c then do
      let (taken, rest) ← run isNumberChar cs
      match numberValue? taken with
      | some s => .ok (.scalar s, rest)
      | none => .error rest
    else wordValue cs

/-- One value or more, with commas between them. -/
def values : Nat → List Char → Except (List Char) (List Value × List Char)
  | 0, cs => .error cs
  | fuel + 1, cs => do
    let (v, rest) ← value (skipBlank cs)
    match skipBlank rest with
    | ',' :: rest =>
      let (vs, rest) ← values fuel rest
      return (v :: vs, rest)
    | rest => return ([v], rest)

/-- A list of values in parentheses. -/
def valueList (cs : List Char) : Except (List Char) (Value × List Char) := do
  let (_, rest) ← mark '(' cs
  match skipBlank rest with
  | ')' :: rest => return (.list [], rest)
  | rest =>
    let (vs, rest) ← values (rest.length + 1) rest
    let (_, rest) ← mark ')' (skipBlank rest)
    return (.list vs, rest)

/-- The operand that an operator takes. -/
def operand (op : Operator) (cs : List Char) : Except (List Char) (Value × List Char) :=
  if op.isNullness then .ok (.null, cs)
  else if op.isMembership then valueList (skipBlank cs)
  else value (skipBlank cs)

def comparison (cs : List Char) : Except (List Char) (Phrase × List Char) := do
  let (field, rest) ← path cs
  let (op, rest) ← operator (skipBlank rest)
  let (v, rest) ← operand op rest
  return (.comparison field op v, rest)

/-- Blanks and a conjunction after them; nothing is taken where they are missing. -/
def conjunction? (cs : List Char) : Option (Conjunction × List Char) :=
  match blanks cs with
  | .error _ => none
  | .ok (_, rest) =>
    if Text.startsWith (rest.map Char.toLower) ['a', 'n', 'd'] then some (.and, rest.drop 3)
    else if Text.startsWith (rest.map Char.toLower) ['o', 'r'] then some (.or, rest.drop 2)
    else none

mutual

/-- A term and the terms joined to it. -/
def sequence : Nat → List Char → Except (List Char) (Phrase × List Char)
  | 0, cs => .error cs
  | fuel + 1, cs => do
    let (first, rest) ← term fuel cs
    let (more, rest) ← joined fuel rest
    return (.chain first more, rest)

def term : Nat → List Char → Except (List Char) (Phrase × List Char)
  | 0, cs => .error cs
  | fuel + 1, cs =>
    match skipBlank cs with
    | '(' :: rest => do
      let (inner, rest) ← sequence fuel (skipBlank rest)
      let (_, rest) ← mark ')' (skipBlank rest)
      return (inner, rest)
    | '*' :: rest => .ok (.all, rest)
    | rest => comparison rest

/-- The further terms of a level, each after its conjunction. -/
def joined : Nat → List Char → Except (List Char) (List (Conjunction × Phrase) × List Char)
  | 0, cs => .error cs
  | fuel + 1, cs =>
    match conjunction? cs with
    | none => .ok ([], cs)
    | some (c, rest) => do
      let (_, rest) ← blanks rest
      let (p, rest) ← term fuel rest
      let (more, rest) ← joined fuel rest
      return ((c, p) :: more, rest)

end

def byteLength (cs : List Char) : Nat := (String.ofList cs).utf8ByteSize

/-- The phrase that a text holds, or how many bytes of it were taken. -/
def parse (s : String) : Except PredicateError Phrase :=
  let cs := Text.trimEnd (Text.trimStart s.toList)
  let stopped := fun rest => Except.error (.stopped (byteLength cs - byteLength rest))
  match sequence (2 * cs.length + 2) cs with
  | .ok (p, []) => .ok p
  | .ok (_, rest) => stopped rest
  | .error rest => stopped rest

mutual

/-- The predicate that a phrase stands for. -/
def Phrase.lower : Phrase → Except PredicateError Predicate
  | .all => .ok .matchAll
  | .comparison field op v => Predicate.make field op v
  | .chain first [] => first.lower
  | .chain first ((c, p) :: more) =>
    if more.all fun m => decide (m.1 = c) then do
      let head ← first.lower
      let second ← p.lower
      let tail ← lowerAll more
      return .compound c (head :: second :: tail)
    else .error .mixedConjunctions

def lowerAll : List (Conjunction × Phrase) → Except PredicateError (List Predicate)
  | [] => .ok []
  | (_, p) :: more => do
    let head ← p.lower
    let tail ← lowerAll more
    return head :: tail

end

end Expression

/-- The predicate that an expression writes. -/
def Predicate.parse (s : String) : Except PredicateError Predicate := do
  let phrase ← Expression.parse s
  phrase.lower

end Sieve
