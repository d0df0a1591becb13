import Sieve.Json
import Sieve.Number.Scaling

/-!
# Sieve.Json.Numeral

The value of a number literal. An integer of 64 bits is exact. Every other literal is taken as a
count of at most 64 bits, formed by its leading digits, times a power of ten, and that product is
computed in binary64 arithmetic (`Binary64.scaled`); so it need not be the nearest number to what
is written.

* `Numeral.value?` is the value; a literal out of range has none.
-/

namespace Sieve
namespace Json

/-- A literal: a sign, digits before the point, digits after it and the exponent, if there are
any. -/
structure Numeral where
  negative : Bool
  whole : List Char
  fraction : Option (List Char)
  exponent : Option Int

/-- Writes digits after a count for as long as the count fits 64 bits. The count and the digits that
are left. -/
def gather (count : Nat) : List Char → Nat × List Char
  | [] => (count, [])
  | c :: cs =>
    let next := 10 * count + digitValue c
    if next ≤ Natural.greatest64 then gather next cs else (count, c :: cs)

namespace Numeral

/-- The count that the digits form, and the power of ten to scale it by. Digits before the point
that find no room still move the point; after the point they have no effect. -/
def parts (n : Numeral) : Nat × Int :=
  let fraction := n.fraction.getD []
  let (count, beyond) := gather 0 n.whole
  let (count, left) := gather count fraction
  (count, n.exponent.getD 0 + beyond.length + left.length - fraction.length)

/-- The value in binary64 arithmetic. -/
def approximate? (n : Numeral) : Option Finite :=
  let (count, power) := n.parts
  match (Binary64.ofInt count).scaled power with
  | .finite x => some { x with negative := n.negative }
  | _ => none

/-- The value of a literal that is written as an integer. -/
def integer? (n : Numeral) : Option Int :=
  if n.fraction.isNone ∧ n.exponent.isNone then
    let count := Natural.ofDigits n.whole
    some (if n.negative then -(count : Int) else count)
  else none

/-- An integer that 64 bits hold, though not `-0`; else the value in binary64 arithmetic. -/
def value? (n : Numeral) : Option Json :=
  match n.integer?.bind Integer64.ofInt? with
  | some i =>
    if n.negative ∧ i.val = 0 then n.approximate?.map .decimal else some (.integer i)
  | none => n.approximate?.map .decimal

end Numeral

end Json
end Sieve
