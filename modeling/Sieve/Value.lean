import Sieve.Json.Printer

/-!
# Sieve.Value

The values that a predicate compares with and that records hold: scalars, lists of values, and null.
Integers come in a signed and an unsigned 64-bit kind.

* `Value.toJson` and `Value.ofJson?` go to JSON and back; an object is no value.
* `Value.display` is the written form in predicates, `Value.asText` the text that textual operators
  and text order look at.
* `Value.same` is equality of structure, with integers of both kinds equal when their numbers are.
-/

namespace Sieve

inductive Scalar where
  | bool (b : Bool)
  | int (n : Int64)
  | uint (n : UInt64)
  | float (x : Binary64)
  | text (s : String)
  deriving DecidableEq

namespace Scalar

/-- Not a number that is infinite or no number. -/
def isFinite : Scalar → Bool
  | .float x => x.isFinite
  | _ => true

def isNumeric : Scalar → Bool
  | .int _ => true
  | .uint _ => true
  | .float _ => true
  | _ => false

/-- The nearest binary64 number. -/
def number? : Scalar → Option Binary64
  | .int n => some (.ofInt n.toInt)
  | .uint n => some (.ofInt n.toNat)
  | .float x => some x
  | _ => none

/-- The exact number of an integer of either kind. -/
def integer? : Scalar → Option Int
  | .int n => some n.toInt
  | .uint n => some n.toNat
  | _ => none

/-- JSON has no text for a number that is not finite: null stands for it. -/
def toJson : Scalar → Json
  | .bool b => .bool b
  | .int n => .integer (.ofInt64 n)
  | .uint n => .integer (.ofUInt64 n)
  | .float (.finite x) => .decimal x
  | .float _ => .null
  | .text s => .text s

/-- Numbers are written with a point or an exponent when they are not integers by kind, and without
an exponent from `0.0001` up to sixteen digits before the point. -/
def writtenNumber : Layout where
  plain := some (-4, 16)
  point := true
  plus := false
  tie := .up

/-- Numbers as plain text: never an exponent, no needless point. -/
def plainNumber : Layout where
  plain := none
  point := false
  plus := false
  tie := .up

def truth (b : Bool) : String := if b then "true" else "false"

/-- A character inside the quotes of a written text. -/
def quotedChar (c : Char) : List Char := if c = '"' ∨ c = '\\' then ['\\', c] else [c]

def quotedText (s : String) : String :=
  String.ofList ('"' :: s.toList.flatMap quotedChar ++ ['"'])

def integerText (n : Int) : String := String.ofList (Json.integerChars n)

/-- The written form in predicates. -/
def display : Scalar → String
  | .bool b => truth b
  | .int n => integerText n.toInt
  | .uint n => integerText n.toNat
  | .float x => writtenNumber.number x
  | .text s => quotedText s

/-- The text that textual operators and text order look at. -/
def asText : Scalar → String
  | .float x => plainNumber.number x
  | .text s => s
  | s => s.display

/-- Equality of structure: integers of both kinds are equal when their numbers are, and binary64
numbers when they are numerically equal. -/
def same : Scalar → Scalar → Bool
  | .bool a, .bool b => a == b
  | .float a, .float b => a.equal b
  | .text a, .text b => a == b
  | a, b =>
    match a.integer?, b.integer? with
    | some m, some n => m == n
    | _, _ => false

end Scalar

inductive Value where
  | null
  | scalar (s : Scalar)
  | list (items : List Value)

namespace Value

instance : Inhabited Value := ⟨.null⟩

def isNull : Value → Bool
  | .null => true
  | _ => false

def isNumeric : Value → Bool
  | .scalar s => s.isNumeric
  | _ => false

def number? : Value → Option Binary64
  | .scalar s => s.number?
  | _ => none

/-- Length of a list. -/
def length? : Value → Option Nat
  | .list items => some items.length
  | _ => none

mutual

def toJson : Value → Json
  | .null => .null
  | .scalar s => s.toJson
  | .list items => .array (toJsonItems items)

def toJsonItems : List Value → List Json
  | [] => []
  | v :: vs => toJson v :: toJsonItems vs

end

mutual

/-- The value of a document without objects. Integers take the signed kind if they fit. -/
def ofJson? : Json → Option Value
  | .null => some .null
  | .bool b => some (.scalar (.bool b))
  | .integer n =>
    match n.toInt64? with
    | some i => some (.scalar (.int i))
    | none => some (.scalar (.uint (UInt64.ofNat n.val.toNat)))
  | .decimal x => some (.scalar (.float (.finite x)))
  | .text s => some (.scalar (.text s))
  | .array items => (ofJsonItems? items).map .list
  | .object _ => none

def ofJsonItems? : List Json → Option (List Value)
  | [] => some []
  | j :: js =>
    match ofJson? j, ofJsonItems? js with
    | some v, some vs => some (v :: vs)
    | _, _ => none

end

/-- The value of any document: an object counts as its JSON text, a list with an object somewhere
inside as null. -/
def ofDocument (j : Json) : Value :=
  match j with
  | .object _ => .scalar (.text j.compact)
  | _ => (ofJson? j).getD .null

mutual

/-- The written form in predicates. -/
def display : Value → String
  | .null => "null"
  | .scalar s => s.display
  | .list items => "(" ++ displayItems items ++ ")"

def displayItems : List Value → String
  | [] => ""
  | [v] => display v
  | v :: vs => display v ++ ", " ++ displayItems vs

end

/-- The text that textual operators and text order look at; null has none. -/
def asText : Value → String
  | .null => ""
  | .scalar s => s.asText
  | v => v.display

mutual

/-- Equality of structure. -/
def same : Value → Value → Bool
  | .null, .null => true
  | .scalar a, .scalar b => a.same b
  | .list a, .list b => sameItems a b
  | _, _ => false

def sameItems : List Value → List Value → Bool
  | [], [] => true
  | a :: as, b :: bs => same a b && sameItems as bs
  | _, _ => false

end

end Value

end Sieve
