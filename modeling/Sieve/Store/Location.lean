import Sieve.Url

/-!
# Sieve.Store.Location

Where a database is and how it is reached. A location is written as an address, whose query may
name other places or ask for a protected connection; parts of the query without a meaning are
passed over.

* `Location.read` reads a location.
* `readFrom_unknown`: a name without a meaning changes nothing.
-/

namespace Sieve

-- Powers are the core ones, also in a context with algebraic structures.
attribute [local instance (high)] instPowNat

/-- How far a connection is protected from others. -/
inductive Protection where
  | disabled
  | allowed
  | preferred
  | required
  /-- The other side shows who vouches for it. -/
  | vouched
  /-- The other side also shows that it is the host that was asked for. -/
  | verified
  deriving DecidableEq, Repr

namespace Protection

def names : List (String × Protection) :=
  [("disable", .disabled), ("allow", .allowed), ("prefer", .preferred), ("require", .required),
    ("verify-ca", .vouched), ("verify-full", .verified)]

def ofName? (name : String) : Option Protection := names.lookup (Text.asciiLower name)

/-- Nothing is sent unprotected. -/
def isStrict : Protection → Bool
  | .required => true
  | .vouched => true
  | .verified => true
  | _ => false

end Protection

/-- Why a text is no count. -/
inductive CountFault where
  | empty
  | notDigits
  | tooLarge
  deriving DecidableEq, Repr

namespace CountFault

def message : CountFault → String
  | .empty => "cannot parse integer from empty string"
  | .notDigits => "invalid digit found in string"
  | .tooLarge => "number too large to fit in target type"

/-- The count below a bound that a text stands for. -/
def count (bound : Nat) (s : String) : Except CountFault Nat :=
  if s = "" then .error .empty
  else
    match Natural.read? s.toList with
    | none => .error .notDigits
    | some n => if n < bound then .ok n else .error .tooLarge

end CountFault

inductive LocationFault where
  | url (f : UrlFault)
  /-- Bytes of an account, a socket or a database are not UTF-8. -/
  | notText
  | protection (name : String)
  | count (f : CountFault)
  | numericAddress
  deriving DecidableEq, Repr

namespace LocationFault

def reason : LocationFault → String
  | .url f => f.message
  | .notText => "invalid utf-8 sequence"
  | .protection name =>
    "error with configuration: unknown value \"" ++ name ++ "\" for `ssl_mode`"
  | .count f => f.message
  | .numericAddress => "invalid IP address syntax"

def message (f : LocationFault) : String := "error with configuration: " ++ f.reason

end LocationFault

/-- A socket, if there is one, goes before the host. -/
structure Location where
  host : String := "localhost"
  port : Nat := 5432
  socket : Option String := none
  protection : Protection := .preferred
  deriving DecidableEq, Repr

namespace Location

/-- The text of a part of an address. -/
def part (cs : List Char) : Except LocationFault String :=
  match Percent.text? cs with
  | some s => .ok s
  | none => .error .notText

def dottedText (bits : Nat) : String :=
  ".".intercalate ([3, 2, 1, 0].map fun (i : Nat) => toString (bits / 256 ^ i % 256))

/-- A path in place of a host is the path of a socket. -/
def atPath (l : Location) (place : String) : Location :=
  if place.toList.head? = some '/' then { l with socket := some place }
  else { l with host := place }

def ofHost : Option Host → Except LocationFault Location
  | none => .ok {}
  | some (.dotted bits) => .ok { host := dottedText bits }
  | some (.grouped text) => .ok { host := "[" ++ String.ofList text ++ "]" }
  | some (.name text) => do
    if (Percent.bytes text).head? = some '/'.toUInt8 then
      return { socket := some (← part text) }
    else return { host := String.ofList text }

def withProtection (l : Location) (name : String) : Except LocationFault Location :=
  match Protection.ofName? name with
  | some p => .ok { l with protection := p }
  | none => .error (.protection name)

/-- A numeric address in place of a host. -/
def atAddress (l : Location) (s : String) : Except LocationFault Location :=
  if Address.isDotted s.toList || Address.isGrouped s.toList then .ok { l with host := s }
  else .error .numericAddress

def count (bound : Nat) (s : String) : Except LocationFault Nat :=
  (CountFault.count bound s).mapError .count

/-- Takes a value from the query. -/
def readFrom (l : Location) (name value : String) : Except LocationFault Location :=
  match name with
  | "sslmode" => l.withProtection value
  | "ssl-mode" => l.withProtection value
  | "host" => .ok (l.atPath value)
  | "hostaddr" => l.atAddress value
  | "port" => (count (2 ^ (16 : Nat)) value).map fun n => { l with port := n }
  | "statement-cache-capacity" => (count (2 ^ (64 : Nat)) value).map fun _ => l
  | _ => .ok l

theorem readFrom_unknown {name : String} (l : Location) (value : String)
    (h : name ∉ ["sslmode", "ssl-mode", "host", "hostaddr", "port", "statement-cache-capacity"]) :
    l.readFrom name value = .ok l := by
  simp only [List.mem_cons, List.not_mem_nil, or_false, not_or] at h
  unfold readFrom
  split <;> simp_all

def ofUrl (u : Url) : Except LocationFault Location := do
  let l ← ofHost u.host
  let _ ← part u.user
  let _ ← part (u.password.getD [])
  let _ ← part (u.path.dropWhile (· = '/'))
  let l := { l with port := u.port.getD l.port }
  (Percent.formPairs (u.query.getD [])).foldlM (fun l pair => l.readFrom pair.1 pair.2) l

def read (s : String) : Except LocationFault Location := do
  ofUrl (← (Url.read s).mapError .url)

end Location

end Sieve
