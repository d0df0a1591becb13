import Sieve.Text.Lower
import Sieve.Url.DomainTable
import Sieve.Url.JoiningTable

/-!
# Sieve.Url.Joining

The two characters that only tell their neighbours to join or not. They are seen through their
effect alone, so that they belong into a name only where they have one: after a mark that takes the
vowel from a consonant, and a divider also between letters that would join.

* `isJoined` says that all of them stand so.
-/

namespace Sieve
namespace Joining

def divider : Char := '\u200C'

def joiner : Char := '\u200D'

def followsVirama : List Char → Bool
  | c :: _ => Text.inRanges viramaRanges c
  | [] => false

/-- The next character that is no mark lies in the ranges. -/
def reaches (ranges : List (Nat × Nat)) (cs : List Char) : Bool :=
  match cs.dropWhile (Text.inRanges Domain.nonspacingRanges) with
  | c :: _ => Text.inRanges ranges c
  | [] => false

/-- Whether the two characters have an effect where they stand; `before` holds the characters in
front, nearest first. -/
def isJoinedAfter (before : List Char) : List Char → Bool
  | [] => true
  | c :: rest =>
    let fits :=
      if c = joiner then followsVirama before
      else if c = divider then
        followsVirama before || (reaches onwardRanges before && reaches backwardRanges rest)
      else true
    fits && isJoinedAfter (c :: before) rest

def isJoined (cs : List Char) : Bool := isJoinedAfter [] cs

end Joining
end Sieve
