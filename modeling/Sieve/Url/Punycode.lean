import Sieve.Number.Reader

/-!
# Sieve.Url.Punycode

Texts beyond ASCII that are written in ASCII letters, digits and hyphens. The characters of ASCII
come first, as they are, in front of the last hyphen. After it numbers say where each other
character is put in, in the order of their codes. A number is written in digits of base 36, the
least first; a digit below the threshold of its place is the last one. The thresholds follow the
size of the numbers so far. `decode?` reads such a text.
-/

namespace Sieve
namespace Punycode

def digit? (c : Char) : Option Nat :=
  if 'a' ≤ c ∧ c ≤ 'z' then some (c.toNat - 'a'.toNat)
  else if 'A' ≤ c ∧ c ≤ 'Z' then some (c.toNat - 'A'.toNat)
  else if c.isDigit then some (26 + digitValue c)
  else none

/-- The threshold of a place, where `place` counts thirty-six for each digit. -/
def threshold (bias place : Nat) : Nat := max 1 (min 26 (place - bias))

/-- The place at which a number of some size ends. -/
def endOf (size place : Nat) : Nat :=
  if 455 < size then endOf (size / 35) (place + 36) else place + 36 * size / (size + 38)
termination_by size
decreasing_by exact Nat.div_lt_self (by omega) (by omega)

/-- The next bias, after a number by which the text grew to a length. -/
def nextBias (number length : Nat) (isFirst : Bool) : Nat :=
  let size := if isFirst then number / 700 else number / 2
  endOf (size + size / length) 0

/-- The text so far, where the last character went in and its code; then the number under way, with
the place of its next digit and what that digit counts. -/
structure State where
  text : List Char
  position : Nat := 0
  code : Nat := 128
  bias : Nat := 72
  number : Nat := 0
  place : Nat := 36
  weight : Nat := 1

namespace State

/-- No number is under way. -/
def isSettled (s : State) : Bool := s.place == 36

/-- Puts in the character that the number tells. -/
def insert? (s : State) : Option State :=
  let length := s.text.length + 1
  let total := s.position + s.number
  let code := s.code + total / length
  if h : code.isValidChar then
    some {
      text := s.text.insertIdx (total % length) (Char.ofNatAux code h)
      position := total % length + 1
      code := code
      bias := nextBias s.number length (s.position == 0) }
  else none

def step? (s : State) (c : Char) : Option State := do
  let digit ← digit? c
  let s := { s with number := s.number + digit * s.weight }
  let t := threshold s.bias s.place
  if digit < t then s.insert?
  else return { s with place := s.place + 36, weight := s.weight * (36 - t) }

end State

/-- The characters as they are, and the digits. A hyphen at the front does not part them. -/
def halves (cs : List Char) : List Char × List Char :=
  let digits := (cs.reverse.takeWhile (· ≠ '-')).reverse
  let plain := cs.take (cs.length - digits.length - 1)
  if plain = [] then ([], cs) else (plain, digits)

def decode? (cs : List Char) : Option (List Char) := do
  let (plain, digits) := halves cs
  if plain.any fun c => 128 ≤ c.toNat then none
  let s ← digits.foldlM State.step? { text := plain }
  if s.isSettled then return s.text else none

end Punycode
end Sieve
