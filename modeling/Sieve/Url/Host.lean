import Sieve.Url.Address
import Sieve.Url.Domain
import Sieve.Url.Percent

/-!
# Sieve.Url.Host

Hosts, and why an address cannot be read. A host in brackets is a grouped address under every
scheme. Any other host of a scheme of the web is a domain or a dotted address; under the remaining
schemes it is a name of the scheme's own, kept as it is written.
-/

namespace Sieve

inductive UrlFault where
  /-- No scheme stands in front. -/
  | relative
  | emptyHost
  | invalidDomain
  | invalidPort
  | invalidDotted
  | invalidGrouped
  | forbiddenCharacter
  deriving DecidableEq, Repr

def UrlFault.message : UrlFault → String
  | .relative => "relative URL without a base"
  | .emptyHost => "empty host"
  | .invalidDomain => "invalid international domain name"
  | .invalidPort => "invalid port number"
  | .invalidDotted => "invalid IPv4 address"
  | .invalidGrouped => "invalid IPv6 address"
  | .forbiddenCharacter => "invalid domain character"

inductive Host where
  | name (text : List Char)
  /-- Thirty-two bits that are written as octets. -/
  | dotted (bits : Nat)
  | grouped (text : List Char)
  deriving DecidableEq, Repr

namespace Host

/-- A character that a name has only percent-encoded. -/
def isForbidden (c : Char) : Bool := c.toNat == 0 || " \t\n\r#/:<>?@[\\]^|".contains c

/-- A host in brackets. -/
def bracketed? (cs : List Char) : Option Host :=
  match cs.getLast? with
  | some ']' => if Address.isGrouped cs.dropLast then some (.grouped cs.dropLast) else none
  | _ => none

def ofName (cs : List Char) : Except UrlFault Host :=
  match cs with
  | '[' :: rest => (bracketed? rest).elim (.error .invalidGrouped) .ok
  | _ => if cs.any isForbidden then .error .forbiddenCharacter else .ok (.name cs)

def ofDomain (cs : List Char) : Except UrlFault Host :=
  match cs with
  | '[' :: rest => (bracketed? rest).elim (.error .invalidGrouped) .ok
  | _ =>
    match (Percent.text? cs).bind (Domain.plain? ·.toList) with
    | none => .error .invalidDomain
    | some [] => .error .emptyHost
    | some text =>
      if Address.endsInNumber text then
        match Address.loose? text with
        | some bits => .ok (.dotted bits)
        | none => .error .invalidDotted
      else .ok (.name text)

end Host

end Sieve
