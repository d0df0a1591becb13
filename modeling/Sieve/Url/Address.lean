import Sieve.Number.Reader
import Sieve.Text.Search

/-!
# Sieve.Url.Address

Numeric addresses of hosts.

* `isDotted`: four octets with points between them. `loose?` reads the freer spellings: fewer
  parts, of which the last fills the octets that are left, in octal or hexadecimal too.
* `isGrouped`: eight groups of sixteen bits with colons between them, where `::` stands for at least
  one group of zeros and the last two groups may be written as four octets.
-/

namespace Sieve
namespace Address

-- Powers are the core ones, also in a context with algebraic structures.
attribute [local instance (high)] instPowNat

/-- A number below 256 without needless zeros. -/
def isOctet : List Char → Bool
  | ['0'] => true
  | '0' :: _ => false
  | cs => match Natural.readDigits? cs with
    | some n => n < 256
    | none => false

def isDotted (cs : List Char) : Bool :=
  let parts := Text.split '.' cs
  parts.length == 4 && parts.all isOctet

/-! ## Freer spellings -/

/-- A number in the base that its first digits announce; the announcement alone is zero. -/
def number? (cs : List Char) : Option Nat :=
  let inBase (base : Nat) (digits : List Char) : Option Nat :=
    digits.foldlM (fun n c => (hexValue? c).bind fun d =>
      if d < base then some (base * n + d) else none) 0
  match cs with
  | [] => none
  | '0' :: 'x' :: rest => inBase 16 rest
  | '0' :: 'X' :: rest => inBase 16 rest
  | '0' :: rest => inBase 8 rest
  | _ => inBase 10 cs

/-- The parts between the points; a point at the end ends the last of them. -/
def parts (cs : List Char) : List (List Char) :=
  let pieces := Text.split '.' cs
  if pieces.length ≠ 1 ∧ pieces.getLast? = some [] then pieces.dropLast else pieces

/-- The last part is a number, so that the whole can only be an address. -/
def endsInNumber (cs : List Char) : Bool :=
  match (parts cs).getLast? with
  | some part => (part ≠ [] && part.all Char.isDigit) || (number? part).isSome
  | none => false

/-- The thirty-two bits of an address. -/
def loose? (cs : List Char) : Option Nat := do
  let numbers ← (parts cs).mapM number?
  let last ← numbers.getLast?
  let octets := numbers.dropLast
  if octets.length ≤ 3 ∧ octets.all (· < 256) ∧ last < 256 ^ (4 - octets.length) then
    return octets.foldl (fun n octet => 256 * n + octet) 0 * 256 ^ (4 - octets.length) + last
  else none

/-! ## Groups -/

def isGroup (cs : List Char) : Bool :=
  1 ≤ cs.length && cs.length ≤ 4 && cs.all fun c => (hexValue? c).isSome

/-- The number of groups that pieces fill. Only the last of them may be dotted. -/
def width? : List (List Char) → Option Nat
  | [] => some 0
  | [last] => if isGroup last then some 1 else if isDotted last then some 2 else none
  | group :: more => if isGroup group then (width? more).map (· + 1) else none

/-- The texts around the first `::`. -/
def aroundGap? : List Char → Option (List Char × List Char)
  | ':' :: ':' :: after => some ([], after)
  | c :: rest => (aroundGap? rest).map fun (before, after) => (c :: before, after)
  | [] => none

/-- The number of groups on one side of the gap. -/
def sideWidth? (cs : List Char) : Option Nat :=
  if cs = [] then some 0 else width? (Text.split ':' cs)

def isGrouped (cs : List Char) : Bool :=
  match aroundGap? cs with
  | none => width? (Text.split ':' cs) == some 8
  | some (before, after) =>
    !before.contains '.' &&
      match sideWidth? before, sideWidth? after with
      | some m, some n => m + n ≤ 7
      | _, _ => false

end Address
end Sieve
