import Sieve.Text.Lower
import Sieve.Url.DirectionTable
import Sieve.Url.DomainTable

/-!
# Sieve.Url.Direction

Labels of a domain that has letters written from right to left. Each of them begins with a letter
and keeps to the direction of that letter, so that no two labels look like one when they are
written side by side: `isOrdered`.
-/

namespace Sieve

inductive Direction where
  | left
  | right
  /-- Digits of the Arabic scripts. -/
  | arabic
  | number
  | neutral
  /-- A mark, which goes with the character before it. -/
  | mark
  deriving DecidableEq, Repr

namespace Direction

def ofAscii (c : Char) : Direction :=
  if c.isAlpha then .left else if c.isDigit then .number else .neutral

def ofChar (c : Char) : Direction :=
  if c.toNat < 128 then ofAscii c
  else if Text.inRanges Domain.nonspacingRanges c then .mark
  else if Text.inRanges rightRanges c then .right
  else if Text.inRanges arabicRanges c then .arabic
  else if Text.inRanges numberRanges c then .number
  else if Text.inRanges neutralRanges c then .neutral
  else .left

/-- The direction at the end, marks aside. -/
def last? (ds : List Direction) : Option Direction := (ds.filter (· ≠ .mark)).getLast?

/-- Only letters and digits from left to right, with one of them at the end. -/
def runsLeft (ds : List Direction) : Bool :=
  !ds.contains .right && !ds.contains .arabic &&
    (last? ds == some .left || last? ds == some .number)

/-- No letter from left to right, digits of one kind, and a letter or digit at the end. -/
def runsRight (ds : List Direction) : Bool :=
  !ds.contains .left && !(ds.contains .number && ds.contains .arabic) &&
    (last? ds == some .right || last? ds == some .number || last? ds == some .arabic)

def isOrderedList : List Direction → Bool
  | [] => true
  | .left :: ds => runsLeft (.left :: ds)
  | .right :: ds => runsRight (.right :: ds)
  | _ => false

def isOrdered (label : List Char) : Bool := isOrderedList (label.map ofChar)

def isFromRight (d : Direction) : Bool := d == .right || d == .arabic

/-- Order matters as soon as one character runs from right to left. -/
def areOrdered (labels : List (List Char)) : Bool :=
  !(labels.any fun label => label.any fun c => isFromRight (ofChar c)) || labels.all isOrdered

end Direction
end Sieve
