import Sieve.Number.Binary64

/-!
# Sieve.Number.Reader

Numbers written in ASCII text.

* `Natural.read?`, `Integer.read?`: whole numbers, the sign optional.
* `Decimal` texts: digits with an optional point and an optional exponent, `Binary64.read?`; at
  least one digit stands beside the point. `Binary64.ofText?` also knows the names of the values
  that are not finite.
-/

namespace Sieve

-- Powers are the core ones, also in a context with algebraic structures.
attribute [local instance (high)] instPowNat

/-- The value of a digit. -/
def digitValue (c : Char) : Nat := c.toNat - '0'.toNat

/-- The value of a hexadecimal digit of either case. -/
def hexValue? (c : Char) : Option Nat :=
  if c.isDigit then some (digitValue c)
  else if 'a' ≤ c ∧ c ≤ 'f' then some (c.toNat - 'a'.toNat + 10)
  else if 'A' ≤ c ∧ c ≤ 'F' then some (c.toNat - 'A'.toNat + 10)
  else none

/-- The number that digits write, most significant first. -/
def Natural.ofDigits (cs : List Char) : Nat := cs.foldl (fun n c => 10 * n + digitValue c) 0

/-- At least one digit and nothing else. -/
def Natural.readDigits? (cs : List Char) : Option Nat :=
  if cs ≠ [] ∧ cs.all Char.isDigit then some (Natural.ofDigits cs) else none

/-- A whole number with an optional plus sign. -/
def Natural.read? : List Char → Option Nat
  | '+' :: cs => Natural.readDigits? cs
  | cs => Natural.readDigits? cs

/-- A whole number with an optional sign. -/
def Integer.read? : List Char → Option Int
  | '-' :: cs => (Natural.readDigits? cs).map fun n => -(n : Int)
  | '+' :: cs => (Natural.readDigits? cs).map Int.ofNat
  | cs => (Natural.readDigits? cs).map Int.ofNat

/-- The least and the greatest 64-bit signed integer, and the greatest unsigned one. -/
def Integer.least64 : Int := -2 ^ (63 : Nat)

def Integer.greatest64 : Int := 2 ^ (63 : Nat) - 1

def Natural.greatest64 : Nat := 2 ^ (64 : Nat) - 1

def Int64.read? (cs : List Char) : Option Int64 :=
  (Integer.read? cs).bind fun n =>
    if Integer.least64 ≤ n ∧ n ≤ Integer.greatest64 then some (Int64.ofInt n) else none

def UInt64.read? (cs : List Char) : Option UInt64 :=
  (Natural.read? cs).bind fun n =>
    if n ≤ Natural.greatest64 then some (UInt64.ofNat n) else none

def UInt32.read? (cs : List Char) : Option UInt32 :=
  (Natural.read? cs).bind fun n => if n < 2 ^ (32 : Nat) then some (UInt32.ofNat n) else none

namespace Binary64

/-- A sign in front of a text: whether it is a minus, and the text after it. -/
def splitSign : List Char → Bool × List Char
  | '-' :: cs => (true, cs)
  | '+' :: cs => (false, cs)
  | cs => (false, cs)

/-- The exponent at the end of a decimal text; no text at all stands for zero. -/
def readExponent? : List Char → Option Int
  | [] => some 0
  | c :: cs => if c = 'e' ∨ c = 'E' then Integer.read? cs else none

/-- A decimal text: digits, an optional point among or beside them, an optional exponent. -/
def readBy? (ofDecimal : Bool → Nat → Int → Binary64) (cs : List Char) : Option Binary64 :=
  let (negative, body) := splitSign cs
  let whole := body.takeWhile Char.isDigit
  let rest := body.dropWhile Char.isDigit
  let (fraction, tail) :=
    match rest with
    | '.' :: more => (more.takeWhile Char.isDigit, more.dropWhile Char.isDigit)
    | _ => ([], rest)
  if whole.isEmpty && fraction.isEmpty then none
  else
    (readExponent? tail).map fun exponent =>
      ofDecimal negative (Natural.ofDigits (whole ++ fraction)) (exponent - fraction.length)

/-- The number nearest to a decimal text. -/
def read? : List Char → Option Binary64 := readBy? ofDecimal

/-- A decimal text or, in any case of ASCII letters, the name of a value that is not finite. -/
def ofTextBy? (ofDecimal : Bool → Nat → Int → Binary64) (s : String) : Option Binary64 :=
  let (negative, body) := splitSign s.toList
  let lowered := body.map Char.toLower
  if lowered = "inf".toList ∨ lowered = "infinity".toList then some (.infinite negative)
  else if lowered = "nan".toList then some .nan
  else readBy? ofDecimal s.toList

def ofText? : String → Option Binary64 := ofTextBy? ofDecimal

/-- The number of single precision that a text stands for. -/
def singleOfText? : String → Option Binary64 := ofTextBy? singleOfDecimal

end Binary64

end Sieve
