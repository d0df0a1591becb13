import Sieve.Json
import Sieve.Sql.Argument
import Sieve.Sql.Statement
import Sieve.Store.Error

/-!
# Sieve.Store.Operation

What an operation on a store does, as data: it is done, or it sends a request and goes on with the
reply. `Operation.run` plays an operation against replies given in advance and returns the requests
that were sent.
-/

namespace Sieve

/-- A row, by the document in its first column; nothing if that is no document. -/
structure Row where
  document? : Option Json

inductive Reply where
  | rows (rows : List Row)
  | int (n : Int64)
  | bool (b : Bool)
  | affected (count : Nat)
  | failed (code message : String)

/-- A statement with the arguments of its placeholders. -/
structure Request where
  statement : Sql.Statement
  arguments : List Sql.Argument

namespace Reply

/-- The answer of a connection that has nothing to say. -/
def unscripted : Reply := .failed "XX000" "no reply scripted"

def rows? : Reply → Except DatabaseFault (List Row)
  | .rows rs => .ok rs
  | .int _ => .ok [⟨none⟩]
  | .bool _ => .ok [⟨none⟩]
  | .affected _ => .ok []
  | .failed code message => .error (.refused code message)

/-- The integer of the first row, if there is a row. -/
def int? : Reply → Except DatabaseFault (Option Int64)
  | .int n => .ok (some n)
  | .rows [] => .ok none
  | .affected _ => .ok none
  | .failed code message => .error (.refused code message)
  | _ => .error .otherType

/-- The truth value of the first row, if there is a row. -/
def bool? : Reply → Except DatabaseFault (Option Bool)
  | .bool b => .ok (some b)
  | .rows [] => .ok none
  | .affected _ => .ok none
  | .failed code message => .error (.refused code message)
  | _ => .error .otherType

/-- How many rows a statement touched. -/
def affected? : Reply → Except DatabaseFault Nat
  | .affected count => .ok count
  | .rows rs => .ok rs.length
  | .int _ => .ok 1
  | .bool _ => .ok 1
  | .failed code message => .error (.refused code message)

end Reply

inductive Operation (α : Type) where
  | done (outcome : Except StoreError α)
  | send (request : Request) (next : Reply → Operation α)

namespace Operation

/-- Goes on with the outcome of an operation. -/
def andThen (o : Operation α) (f : α → Operation β) : Operation β :=
  match o with
  | .done (.ok a) => f a
  | .done (.error e) => .done (.error e)
  | .send request next => .send request fun reply => (next reply).andThen f

def map (f : α → β) (o : Operation α) : Operation β := o.andThen fun a => .done (.ok (f a))

/-- The outcome of a run, the requests sent, and the replies left over. -/
structure Run (α : Type) where
  outcome : Except StoreError α
  sent : List Request
  left : List Reply

/-- Takes a reply for every request, in turn; when none is left the connection refuses. -/
def run (o : Operation α) (replies : List Reply) : Run α :=
  match o with
  | .done outcome => ⟨outcome, [], replies⟩
  | .send request next =>
    let r := (next (replies.headD .unscripted)).run replies.tail
    ⟨r.outcome, request :: r.sent, r.left⟩

theorem run_send (request : Request) (next : Reply → Operation α) (reply : Reply)
    (replies : List Reply) :
    (send request next).run (reply :: replies) =
      ⟨((next reply).run replies).outcome, request :: ((next reply).run replies).sent,
        ((next reply).run replies).left⟩ := rfl

end Operation

end Sieve
