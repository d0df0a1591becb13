import Sieve.Json.Numeral

/-!
# Sieve.Json.Reader

Reading JSON text. Containers may be nested 127 deep; a number too large to be finite, a lone half
of a surrogate pair and a raw control character inside quotes are refused.

* `Json.read?` reads a whole text.
* `Json.readFirst?` reads the document at the start of a text and returns what follows it.

The readers below take a bound on the number of steps; a text's own length is enough.
-/

namespace Sieve
namespace Json
namespace Reader

def isBlank (c : Char) : Bool := c == ' ' || c == '\t' || c == '\n' || c == '\r'

def skipBlank (cs : List Char) : List Char := cs.dropWhile isBlank

/-- Four hexadecimal digits. -/
def hexFour? : List Char → Option (Nat × List Char)
  | a :: b :: c :: d :: rest => do
    let w ← hexValue? a
    let x ← hexValue? b
    let y ← hexValue? c
    let z ← hexValue? d
    return (((w * 16 + x) * 16 + y) * 16 + z, rest)
  | _ => none

def isHighHalf (code : Nat) : Bool := 0xD800 ≤ code && code < 0xDC00

def isLowHalf (code : Nat) : Bool := 0xDC00 ≤ code && code < 0xE000

/-- A code given in hexadecimal; a high half of a pair needs its low half after it. -/
def unicodeEscape? (cs : List Char) : Option (Char × List Char) := do
  let (code, rest) ← hexFour? cs
  if isHighHalf code then
    match rest with
    | '\\' :: 'u' :: rest =>
      let (low, rest) ← hexFour? rest
      if isLowHalf low then
        return (Char.ofNat (0x10000 + (code - 0xD800) * 0x400 + (low - 0xDC00)), rest)
      else none
    | _ => none
  else if isLowHalf code then none
  else return (Char.ofNat code, rest)

/-- What follows a backslash. -/
def escape? : List Char → Option (Char × List Char)
  | '"' :: rest => some ('"', rest)
  | '\\' :: rest => some ('\\', rest)
  | '/' :: rest => some ('/', rest)
  | 'b' :: rest => some ('\x08', rest)
  | 'f' :: rest => some ('\x0c', rest)
  | 'n' :: rest => some ('\n', rest)
  | 'r' :: rest => some ('\r', rest)
  | 't' :: rest => some ('\t', rest)
  | 'u' :: rest => unicodeEscape? rest
  | _ => none

/-- The characters up to the closing quote. -/
def quoted? : Nat → List Char → Option (List Char × List Char)
  | fuel + 1, c :: rest =>
    if c = '"' then some ([], rest)
    else if c = '\\' then do
      let (e, rest) ← escape? rest
      let (more, rest) ← quoted? fuel rest
      return (e :: more, rest)
    else if c.toNat < 0x20 then none
    else do
      let (more, rest) ← quoted? fuel rest
      return (c :: more, rest)
  | _, _ => none

/-- Digits before the point: a zero stands alone. -/
def whole? (cs : List Char) : Option (List Char × List Char) :=
  let digits := cs.takeWhile Char.isDigit
  match digits with
  | [] => none
  | '0' :: _ :: _ => none
  | _ => some (digits, cs.dropWhile Char.isDigit)

/-- A point with at least one digit, if there is a point. -/
def fraction? : List Char → Option (Option (List Char) × List Char)
  | '.' :: rest =>
    let digits := rest.takeWhile Char.isDigit
    if digits.isEmpty then none else some (some digits, rest.dropWhile Char.isDigit)
  | cs => some (none, cs)

/-- An exponent with at least one digit, if there is one. -/
def exponent? : List Char → Option (Option Int × List Char)
  | c :: rest =>
    if c = 'e' ∨ c = 'E' then
      let (negative, body) := Binary64.splitSign rest
      let digits := body.takeWhile Char.isDigit
      if digits.isEmpty then none
      else
        let n := Natural.ofDigits digits
        some (some (if negative then -(n : Int) else n), body.dropWhile Char.isDigit)
    else some (none, c :: rest)
  | [] => some (none, [])

def number? (cs : List Char) : Option (Json × List Char) := do
  let (negative, cs) := match cs with
    | '-' :: rest => (true, rest)
    | _ => (false, cs)
  let (whole, cs) ← whole? cs
  let (fraction, cs) ← fraction? cs
  let (exponent, cs) ← exponent? cs
  let j ← Numeral.value? ⟨negative, whole, fraction, exponent⟩
  return (j, cs)

/-- A value that is no container and no quoted text. -/
def plain? : List Char → Option (Json × List Char)
  | 'n' :: 'u' :: 'l' :: 'l' :: rest => some (.null, rest)
  | 't' :: 'r' :: 'u' :: 'e' :: rest => some (.bool true, rest)
  | 'f' :: 'a' :: 'l' :: 's' :: 'e' :: rest => some (.bool false, rest)
  | cs => number? cs

mutual

/-- The document at the start of a text, nested at most `depth` containers deep. -/
def value? : Nat → Nat → List Char → Option (Json × List Char)
  | 0, _, _ => none
  | fuel + 1, depth, cs =>
    match skipBlank cs with
    | '"' :: rest => do
      let (s, rest) ← quoted? fuel rest
      return (.text (String.ofList s), rest)
    | '[' :: rest =>
      if depth = 0 then none
      else
        match skipBlank rest with
        | ']' :: rest => some (.array [], rest)
        | rest => do
          let (items, rest) ← items? fuel (depth - 1) rest
          return (.array items, rest)
    | '{' :: rest =>
      if depth = 0 then none
      else
        match skipBlank rest with
        | '}' :: rest => some (.object [], rest)
        | rest => do
          let (members, rest) ← members? fuel (depth - 1) rest
          return (ofMembers members, rest)
    | rest => plain? rest

/-- One item or more, up to the closing bracket. -/
def items? : Nat → Nat → List Char → Option (List Json × List Char)
  | 0, _, _ => none
  | fuel + 1, depth, cs => do
    let (j, rest) ← value? fuel depth cs
    match skipBlank rest with
    | ',' :: rest =>
      let (js, rest) ← items? fuel depth rest
      return (j :: js, rest)
    | ']' :: rest => return ([j], rest)
    | _ => none

/-- One member or more, up to the closing brace. -/
def members? : Nat → Nat → List Char → Option (List (String × Json) × List Char)
  | 0, _, _ => none
  | fuel + 1, depth, cs =>
    match skipBlank cs with
    | '"' :: rest => do
      let (key, rest) ← quoted? fuel rest
      match skipBlank rest with
      | ':' :: rest =>
        let (j, rest) ← value? fuel depth rest
        let m := (String.ofList key, j)
        match skipBlank rest with
        | ',' :: rest =>
          let (ms, rest) ← members? fuel depth rest
          return (m :: ms, rest)
        | '}' :: rest => return ([m], rest)
        | _ => none
      | _ => none
    | _ => none

end

end Reader

/-- How many containers may stand inside one another. -/
def depthLimit : Nat := 127

/-- The document at the start of a text, and the rest of the text without its blanks in front. -/
def readFirst? (limit : Nat) (s : String) : Option (Json × List Char) :=
  let cs := s.toList
  (Reader.value? (2 * cs.length + 2) limit cs).map fun (j, rest) => (j, Reader.skipBlank rest)

/-- The document that a text holds, nested at most `limit` containers deep. -/
def readWithin? (limit : Nat) (s : String) : Option Json :=
  match readFirst? limit s with
  | some (j, []) => some j
  | _ => none

def read? (s : String) : Option Json := readWithin? depthLimit s

end Json
end Sieve
