import Sieve.Text.Lower
import Sieve.Text.Search
import Sieve.Url.Direction
import Sieve.Url.Joining
import Sieve.Url.Punycode

/-!
# Sieve.Url.Domain

Names of domains. A name is brought into its plain form character by character: letters become
lower case, characters that only look different become the ones they stand for, and some are left
out. Then the name is cut at its points, and a label that begins with `xn--` is read as the text
that it stands for. `plain?` is the plain form, if the name can be one of a domain.
-/

namespace Sieve
namespace Domain

def isAscii (c : Char) : Bool := c.toNat < 128

/-- Characters of ASCII that have a meaning in an address, or none at all. -/
def isAllowed (c : Char) : Bool :=
  ' ' < c && c ≠ '\x7f' && !"%#/:<>?@[\\]^|".contains c

/-- The characters of ASCII that a character beyond it stands for. -/
def asciiForm? (c : Char) : Option (List Char) :=
  match plainRuns.find? fun r => r.1 ≤ c.toNat && c.toNat ≤ r.2.1 with
  | some r => some [Char.ofNat (r.2.2 + (c.toNat - r.1))]
  | none => (plainTexts.lookup c.toNat).map String.toList

/-- The plain form of a character. A letter beyond ASCII keeps its case, on which nothing hangs. -/
def plainChar? (c : Char) : Option (List Char) :=
  if isAscii c then
    if isAllowed c.toLower then some [c.toLower] else none
  else if Text.inRanges excludedRanges c then none
  else if Text.inRanges ignoredRanges c then some []
  else some ((asciiForm? c).getD [c])

/-- Cherokee letters have their upper case as the plain form. -/
def isCherokee (c : Char) : Bool := 0x13A0 ≤ c.toNat && c.toNat ≤ 0x13F5

/-- A character that is its own plain form. -/
def isPlain (c : Char) : Bool :=
  plainChar? c == some [c] && !Text.inRanges alteredRanges c &&
    (Text.lowerChar c == [c] || isCherokee c)

/-- A text that a label may stand for: it does not begin with a mark. -/
def isLabel (cs : List Char) : Bool :=
  match cs with
  | c :: _ => !Text.inRanges nonspacingRanges c && !Text.inRanges spacingRanges c &&
    Joining.isJoined cs
  | [] => true

/-- The text that a label stands for. Behind `xn--` stands the coded form of a plain text beyond
ASCII. -/
def decoded? (label : List Char) : Option (List Char) :=
  match label with
  | 'x' :: 'n' :: '-' :: '-' :: rest =>
    (Punycode.decode? rest).filter fun text => !text.all isAscii && text.all isPlain
  | _ => some label

/-- The plain form of a name. -/
def plain? (cs : List Char) : Option (List Char) := do
  let forms ← cs.mapM plainChar?
  let name := forms.flatten
  let texts ← (Text.split '.' name).mapM decoded?
  if texts.all isLabel && Direction.areOrdered texts then return name else none

end Domain
end Sieve
