import Sieve.Value
import Sieve.Text.Search

/-!
# Sieve.Value.Order

How values compare. Two numbers of whatever kind compare as binary64 numbers; other scalars are
equal only within a kind and are ordered by their texts; a number and another scalar are neither
equal nor ordered. Null and lists have no order.
-/

namespace Sieve

namespace Scalar

def equal (a b : Scalar) : Bool :=
  match a.number?, b.number? with
  | some x, some y => x.equal y
  | _, _ =>
    match a, b with
    | .bool a, .bool b => a == b
    | .text a, .text b => a == b
    | _, _ => false

def compare? (a b : Scalar) : Option Ordering :=
  match a.number?, b.number? with
  | some x, some y => x.compare? y
  | none, none => some (compare a.asText b.asText)
  | _, _ => none

def contains (a part : Scalar) : Bool := Text.contains a.asText.toList part.asText.toList

def startsWith (a part : Scalar) : Bool := Text.startsWith a.asText.toList part.asText.toList

def endsWith (a part : Scalar) : Bool := Text.endsWith a.asText.toList part.asText.toList

end Scalar

namespace Value

mutual

def equal : Value → Value → Bool
  | .null, .null => true
  | .scalar a, .scalar b => a.equal b
  | .list a, .list b => equalItems a b
  | _, _ => false

def equalItems : List Value → List Value → Bool
  | [], [] => true
  | a :: as, b :: bs => equal a b && equalItems as bs
  | _, _ => false

end

def compare? : Value → Value → Option Ordering
  | .scalar a, .scalar b => a.compare? b
  | _, _ => none

def contains (a part : Value) : Bool := Text.contains a.asText.toList part.asText.toList

def startsWith (a part : Value) : Bool := Text.startsWith a.asText.toList part.asText.toList

def endsWith (a part : Value) : Bool := Text.endsWith a.asText.toList part.asText.toList

/-- Membership in a list; nothing is a member of a value that is no list. -/
def member (list item : Value) : Bool :=
  match list with
  | .list items => items.any fun v => v.equal item
  | _ => false

end Value

end Sieve
