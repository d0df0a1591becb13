import Sieve.File
import Sieve.Store.Location

/-!
# Sieve.Store.Connection

Connections to a database, and why there is none.

* `connect` says what meets an attempt, given the locations at which a database is running.
* `connect_eq_ok_iff`: it takes a location with a running database, at least one connection, and no
  call for protection, which no connection has.
-/

namespace Sieve

inductive ConnectionFault where
  | location (f : LocationFault)
  | timedOut
  | noSocket
  | unknownHost
  | unprotected
  deriving DecidableEq, Repr

namespace ConnectionFault

def inTransit (reason : String) : List String :=
  ["error communicating with database: " ++ reason, reason]

/-- What the database's side says, from the outside in. -/
def reasons : ConnectionFault → List String
  | .location _ => []
  | .timedOut => ["pool timed out while waiting for an open connection"]
  | .noSocket => inTransit FileFault.missing.message
  | .unknownHost =>
    inTransit "failed to lookup address information: Temporary failure in name resolution"
  | .unprotected =>
    let reason :=
      "TLS upgrade required by connect options but SQLx was built without TLS support enabled"
    ["error occurred while attempting to establish a TLS connection: " ++ reason, reason]

def message : ConnectionFault → String
  | .location f => "Internal: Invalid database URL: " ++ f.message
  | f => "Database error: " ++ (f.reasons.headD "")

/-- The fault and what is behind it, from the outside in. -/
def texts (f : ConnectionFault) : List String := f.message :: f.reasons

end ConnectionFault

namespace Location

def isNumeric (host : String) : Bool :=
  Address.isDotted host.toList || Address.isGrouped host.toList

/-- What an attempt meets where no database is running. A refusal is not taken for an answer until
the time is up. -/
def unanswered (l : Location) : ConnectionFault :=
  if l.socket.isSome then .noSocket
  else if l.host = "localhost" ∨ isNumeric l.host then .timedOut
  else .unknownHost

def connect (isRunning : Location → Bool) (url : String) (connections : UInt32) :
    Except ConnectionFault Unit := do
  let l ← (read url).mapError .location
  if connections = 0 then throw .timedOut
  if !isRunning l then throw l.unanswered
  if l.protection.isStrict then throw .unprotected

theorem connect_eq_ok_iff {isRunning : Location → Bool} {url : String} {connections : UInt32} :
    connect isRunning url connections = .ok () ↔
      ∃ l, read url = .ok l ∧ connections ≠ 0 ∧ isRunning l = true ∧
        l.protection.isStrict = false := by
  unfold connect
  cases h : read url with
  | error f =>
    constructor
    · intro hconnected
      cases hconnected
    · rintro ⟨l, hread, -⟩
      cases hread
  | ok l =>
    have hread : (Except.ok l).mapError ConnectionFault.location = .ok l := rfl
    simp only [hread, bind, Except.bind, pure, Except.pure, throw, throwThe,
      MonadExceptOf.throw]
    by_cases hc : connections = 0 <;> cases hr : isRunning l <;>
      cases hp : l.protection.isStrict <;> simp [hc, hr, hp]

end Location

end Sieve
