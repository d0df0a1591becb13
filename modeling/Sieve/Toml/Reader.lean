import Sieve.Number.Reader
import Sieve.Toml.Moment
import Sieve.Toml.Table

/-!
# Sieve.Toml.Reader

Reading TOML text. The lines of a document are read first, then put together to tables. A value
holds containers at most 79 deep and a key has fewer than 80 parts.
-/

namespace Sieve
namespace Toml
namespace Reader

/-! ## Blanks and comments -/

def isBlank (c : Char) : Bool := c == ' ' || c == '\t'

def skipBlank (cs : List Char) : List Char := cs.dropWhile isBlank

/-- A character that is no control character; a tab counts as none. -/
def isPrintable (c : Char) : Bool := c == '\t' || (0x20 ≤ c.toNat && c.toNat != 0x7F)

/-- The end of a line. -/
def newLine? : List Char → Option (List Char)
  | '\n' :: rest => some rest
  | '\r' :: '\n' :: rest => some rest
  | _ => none

/-- Drops a comment, if there is one. -/
def skipComment : List Char → List Char
  | '#' :: rest => rest.dropWhile isPrintable
  | cs => cs

/-- Blanks, a comment and the end of the line or of the text. -/
def lineEnd? (cs : List Char) : Option (List Char) :=
  match skipComment (skipBlank cs) with
  | [] => some []
  | rest => newLine? rest

/-- Drops blanks, comments and ends of lines. -/
def skipLines : Nat → List Char → List Char
  | 0, cs => cs
  | fuel + 1, cs =>
    match newLine? (skipComment (skipBlank cs)) with
    | some rest => skipLines fuel rest
    | none => skipBlank cs

/-! ## Texts -/

/-- A character by its code in so many hexadecimal digits. -/
def coded? (count : Nat) (cs : List Char) : Option (Char × List Char) := do
  let taken := cs.take count
  if taken.length ≠ count then none
  let code ← taken.foldlM (fun n c => (hexValue? c).map fun d => 16 * n + d) 0
  if h : code.isValidChar then return (Char.ofNatAux code h, cs.drop count) else none

/-- What follows a backslash. -/
def escape? : List Char → Option (Char × List Char)
  | 'b' :: rest => some ('\x08', rest)
  | 'f' :: rest => some ('\x0c', rest)
  | 'n' :: rest => some ('\n', rest)
  | 'r' :: rest => some ('\r', rest)
  | 't' :: rest => some ('\t', rest)
  | '"' :: rest => some ('"', rest)
  | '\\' :: rest => some ('\\', rest)
  | 'u' :: rest => coded? 4 rest
  | 'U' :: rest => coded? 8 rest
  | _ => none

/-- The characters of a text on one line up to its closing quote. -/
def basic? : Nat → List Char → Option (List Char × List Char)
  | fuel + 1, c :: rest =>
    if c = '"' then some ([], rest)
    else if c = '\\' then do
      let (e, rest) ← escape? rest
      let (more, rest) ← basic? fuel rest
      return (e :: more, rest)
    else if isPrintable c then do
      let (more, rest) ← basic? fuel rest
      return (c :: more, rest)
    else none
  | _, _ => none

/-- The same without escapes. -/
def literal? : List Char → Option (List Char × List Char)
  | [] => none
  | c :: rest =>
    if c = '\x27' then some ([], rest)
    else if isPrintable c then (literal? rest).map fun (more, rest) => (c :: more, rest)
    else none

/-- Quotes that end a text of several lines: three close it, and up to two more before them belong
to it. Fewer than three do not end it. -/
def closing? (quote : Char) (cs : List Char) : Option (List Char × List Char) :=
  let count := (cs.takeWhile (· == quote)).length
  if count < 3 then none
  else
    let extra := min (count - 3) 2
    some (List.replicate extra quote, cs.drop (extra + 3))

/-- Drops blanks and ends of lines. -/
def skipSpace : List Char → List Char
  | ' ' :: rest => skipSpace rest
  | '\t' :: rest => skipSpace rest
  | '\n' :: rest => skipSpace rest
  | '\r' :: '\n' :: rest => skipSpace rest
  | cs => cs

/-- A backslash at the end of a line drops the line's end and the blanks and line ends after it. -/
def joinedLine? (cs : List Char) : Option (List Char) := (newLine? (skipBlank cs)).map skipSpace

/-- The characters of a text of several lines; `escapes` tells whether a backslash escapes. -/
def multiline? (quote : Char) (escapes : Bool) : Nat → List Char → Option (List Char × List Char)
  | 0, _ => none
  | fuel + 1, cs =>
    match closing? quote cs with
    | some closed => some closed
    | none =>
      match newLine? cs with
      | some rest =>
        (multiline? quote escapes fuel rest).map fun (more, rest) => ('\n' :: more, rest)
      | none =>
        match cs with
        | [] => none
        | c :: rest =>
          if escapes && c == '\\' then
            match joinedLine? rest with
            | some rest => multiline? quote escapes fuel rest
            | none => do
              let (e, rest) ← escape? rest
              let (more, rest) ← multiline? quote escapes fuel rest
              return (e :: more, rest)
          else if isPrintable c then
            (multiline? quote escapes fuel rest).map fun (more, rest) => (c :: more, rest)
          else none

/-- A line's end right after the opening quotes is dropped. -/
def afterOpening (cs : List Char) : List Char := (newLine? cs).getD cs

def text? (cs : List Char) : Option (List Char × List Char) :=
  match cs with
  | '"' :: '"' :: '"' :: rest => multiline? '"' true (rest.length + 1) (afterOpening rest)
  | '"' :: rest => basic? (rest.length + 1) rest
  | '\x27' :: '\x27' :: '\x27' :: rest =>
    multiline? '\x27' false (rest.length + 1) (afterOpening rest)
  | '\x27' :: rest => literal? rest
  | _ => none

/-! ## Keys -/

def isBareKeyChar (c : Char) : Bool := c.isAlphanum || c == '-' || c == '_'

def simpleKey? (cs : List Char) : Option (String × List Char) :=
  match cs with
  | '"' :: rest => (basic? (rest.length + 1) rest).map fun (s, rest) => (String.ofList s, rest)
  | '\x27' :: rest => (literal? rest).map fun (s, rest) => (String.ofList s, rest)
  | _ =>
    match cs.takeWhile isBareKeyChar with
    | [] => none
    | taken => some (String.ofList taken, cs.dropWhile isBareKeyChar)

/-- The parts of a dotted key, with the blanks around them. -/
def keyParts? : Nat → List Char → Option (List String × List Char)
  | 0, _ => none
  | fuel + 1, cs => do
    let (key, rest) ← simpleKey? (skipBlank cs)
    match skipBlank rest with
    | '.' :: rest =>
      let (more, rest) ← keyParts? fuel rest
      return (key :: more, rest)
    | rest => return ([key], rest)

/-- How many containers, and how many parts of a key, are too many. -/
def depthLimit : Nat := 80

def key? (cs : List Char) : Option (List String × List Char) := do
  let (parts, rest) ← keyParts? (cs.length + 1) cs
  if parts.length < depthLimit then return (parts, rest) else none

/-! ## Numbers -/

/-- Digits of a class with single low lines between them, which are dropped. -/
def moreDigits (p : Char → Bool) : List Char → List Char × List Char
  | '_' :: c :: rest =>
    if p c then
      let (ds, rest) := moreDigits p rest
      (c :: ds, rest)
    else ([], '_' :: c :: rest)
  | c :: rest =>
    if p c then
      let (ds, rest) := moreDigits p rest
      (c :: ds, rest)
    else ([], c :: rest)
  | [] => ([], [])

/-- One digit and any that follow it. -/
def digits? (p : Char → Bool) : List Char → Option (List Char × List Char)
  | c :: rest =>
    if p c then
      let (ds, rest) := moreDigits p rest
      some (c :: ds, rest)
    else none
  | [] => none

/-- Decimal digits; a zero in front stands alone. -/
def whole? : List Char → Option (List Char × List Char)
  | '0' :: rest => some (['0'], rest)
  | cs => digits? Char.isDigit cs

def fraction? : List Char → Option (List Char × List Char)
  | '.' :: rest => digits? Char.isDigit rest
  | _ => none

def exponent? : List Char → Option (Int × List Char)
  | c :: rest =>
    if c = 'e' ∨ c = 'E' then
      let (negative, rest) := Binary64.splitSign rest
      (digits? Char.isDigit rest).map fun (ds, rest) =>
        (if negative then -(Natural.ofDigits ds : Int) else Natural.ofDigits ds, rest)
    else none
  | [] => none

/-- A finite number, or one too far below zero to be finite. -/
def approximate? (negative : Bool) (whole fraction : List Char) (exponent : Int) : Option Toml :=
  let x :=
    Binary64.ofDecimal negative (Natural.ofDigits (whole ++ fraction)) (exponent - fraction.length)
  if x = .infinite false then none else some (.float x)

def special? (negative : Bool) : List Char → Option (Toml × List Char)
  | 'i' :: 'n' :: 'f' :: rest => some (.float (.infinite negative), rest)
  | 'n' :: 'a' :: 'n' :: rest => some (.float .nan, rest)
  | _ => none

/-- A number with a fraction or an exponent, or the name of one that is not finite. -/
def float? (cs : List Char) : Option (Toml × List Char) :=
  let (negative, body) := Binary64.splitSign cs
  match whole? body with
  | none => special? negative body
  | some (whole, rest) =>
    match exponent? rest with
    | some (exponent, rest) => (approximate? negative whole [] exponent).map (·, rest)
    | none => do
      let (fraction, rest) ← fraction? rest
      let (exponent, rest) := (exponent? rest).getD (0, rest)
      let v ← approximate? negative whole fraction exponent
      return (v, rest)

def signed? (n : Int) : Option Toml :=
  if Integer.least64 ≤ n ∧ n ≤ Integer.greatest64 then some (.integer (Int64.ofInt n)) else none

/-- The digits of a base up to sixteen. -/
def isDigitOf (base : Nat) (c : Char) : Bool :=
  match hexValue? c with
  | some d => d < base
  | none => false

def based? (base : Nat) (cs : List Char) : Option (Toml × List Char) := do
  let (ds, rest) ← digits? (isDigitOf base) cs
  let n := ds.foldl (fun n c => base * n + (hexValue? c).getD 0) 0
  let v ← signed? n
  return (v, rest)

def integer? (cs : List Char) : Option (Toml × List Char) :=
  match cs with
  | '0' :: 'x' :: rest => based? 16 rest
  | '0' :: 'o' :: rest => based? 8 rest
  | '0' :: 'b' :: rest => based? 2 rest
  | _ => do
    let (negative, body) := Binary64.splitSign cs
    let (ds, rest) ← whole? body
    let n := Natural.ofDigits ds
    let v ← signed? (if negative then -(n : Int) else n)
    return (v, rest)

def moment? (cs : List Char) : Option (Toml × List Char) :=
  (Moment.read? cs).map fun (s, rest) => (.moment s, rest)

/-- A value that is neither a text nor a container. -/
def plain? : List Char → Option (Toml × List Char)
  | 't' :: 'r' :: 'u' :: 'e' :: rest => some (.bool true, rest)
  | 'f' :: 'a' :: 'l' :: 's' :: 'e' :: rest => some (.bool false, rest)
  | cs => (moment? cs).or ((float? cs).or (integer? cs))

/-! ## Values -/

mutual

def value? : Nat → Nat → List Char → Option (Toml × List Char)
  | 0, _, _ => none
  | fuel + 1, depth, cs =>
    match cs with
    | '[' :: rest =>
      if depth ≤ 1 then none
      else
        match skipLines fuel rest with
        | ']' :: rest => some (.array [], rest)
        | rest => do
          let (items, rest) ← items? fuel (depth - 1) rest
          return (.array items, rest)
    | '{' :: rest =>
      if depth ≤ 1 then none
      else
        match skipBlank rest with
        | '}' :: rest => some (.table [], rest)
        | rest => do
          let (pairs, rest) ← pairs? fuel (depth - 1) rest
          let entries ← Node.insertPairs [] pairs
          return (Node.toToml (.table false false entries), rest)
    | '"' :: _ => (text? cs).map fun (s, rest) => (.text (String.ofList s), rest)
    | '\x27' :: _ => (text? cs).map fun (s, rest) => (.text (String.ofList s), rest)
    | _ => plain? cs

/-- One item or more up to the closing bracket; a comma may stand after the last. -/
def items? : Nat → Nat → List Char → Option (List Toml × List Char)
  | 0, _, _ => none
  | fuel + 1, depth, cs => do
    let (v, rest) ← value? fuel depth cs
    match skipLines fuel rest with
    | ']' :: rest => return ([v], rest)
    | ',' :: rest =>
      match skipLines fuel rest with
      | ']' :: rest => return ([v], rest)
      | rest =>
        let (more, rest) ← items? fuel depth rest
        return (v :: more, rest)
    | _ => none

/-- One pair or more up to the closing brace. -/
def pairs? : Nat → Nat → List Char → Option (List (List String × Toml) × List Char)
  | 0, _, _ => none
  | fuel + 1, depth, cs => do
    let (keys, rest) ← key? cs
    match rest with
    | '=' :: rest =>
      let (v, rest) ← value? fuel depth (skipBlank rest)
      match skipBlank rest with
      | '}' :: rest => return ([(keys, v)], rest)
      | ',' :: rest =>
        let (more, rest) ← pairs? fuel depth rest
        return ((keys, v) :: more, rest)
      | _ => none
    | _ => none

end

/-! ## Lines -/

inductive Line where
  | pair (keys : List String) (value : Toml)
  | header (element : Bool) (keys : List String)

def header? (cs : List Char) : Option (Line × List Char) :=
  match cs with
  | '[' :: '[' :: rest => do
    let (keys, rest) ← key? rest
    match rest with
    | ']' :: ']' :: rest => return (.header true keys, rest)
    | _ => none
  | '[' :: rest => do
    let (keys, rest) ← key? rest
    match rest with
    | ']' :: rest => return (.header false keys, rest)
    | _ => none
  | _ => none

def pair? (cs : List Char) : Option (Line × List Char) := do
  let (keys, rest) ← key? cs
  match rest with
  | '=' :: rest =>
    let (v, rest) ← value? (2 * rest.length + 2) depthLimit (skipBlank rest)
    return (.pair keys v, rest)
  | _ => none

/-- The lines of a text that hold something. -/
def lines? : Nat → List Char → Option (List Line)
  | 0, _ => none
  | fuel + 1, cs =>
    match skipLines (cs.length + 1) cs with
    | [] => some []
    | '#' :: rest => lineEnd? ('#' :: rest) |>.bind (lines? fuel)
    | rest => do
      let (line, rest) ← (header? rest).or (pair? rest)
      let rest ← lineEnd? rest
      let more ← lines? fuel rest
      return line :: more

end Reader

/-- A header with the pairs below it. -/
structure Part where
  element : Bool
  keys : List String
  pairs : List (List String × Toml)

/-- The pairs in front of the first header, and the sections after them. -/
def partsOf : List Reader.Line → List (List String × Toml) × List Part
  | [] => ([], [])
  | .pair keys v :: lines =>
    let (pairs, parts) := partsOf lines
    ((keys, v) :: pairs, parts)
  | .header element keys :: lines =>
    let (pairs, parts) := partsOf lines
    ([], ⟨element, keys, pairs⟩ :: parts)

def addParts (entries : Entries Node) : List Part → Option (Entries Node)
  | [] => some entries
  | p :: ps =>
    match Node.addSection entries p.element p.keys p.pairs with
    | none => none
    | some entries => addParts entries ps

/-- The byte order mark that a text may start with. -/
def byteOrderMark : Char := '\ufeff'

/-- The table that a text holds. -/
def read? (s : String) : Option (Entries Toml) := do
  let cs :=
    match s.toList with
    | c :: rest => if c = byteOrderMark then rest else c :: rest
    | [] => []
  let lines ← Reader.lines? (cs.length + 1) cs
  let (pairs, parts) := partsOf lines
  let top ← Node.insertPairs [] pairs
  let entries ← addParts top parts
  return Node.toTomlEntries entries

end Toml
end Sieve
