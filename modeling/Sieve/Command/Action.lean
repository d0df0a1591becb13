import Sieve.Command.Failure
import Sieve.Command.Help
import Sieve.Command.Options

/-!
# Sieve.Command.Action

What a command does, as data: it ends, or it asks for something and goes on with the answer.
`Action.run` plays an action with answers given in advance and returns how it ends and which
requests it sent to the database.
-/

namespace Sieve
namespace Command

/-- How a command ends. -/
inductive Ending where
  | printed (text : String)
  /-- The verdict on a document. -/
  | verdict (holds : Bool)
  | failed (f : Failure)
  | misused (f : UsageFault)

namespace Ending

/-- What goes to the standard output. -/
def output : Ending → String
  | .printed text => text
  | .verdict holds => if holds then "true\n" else "false\n"
  | .failed _ => ""
  | .misused _ => ""

/-- What goes to the standard error. -/
def report : Ending → String
  | .printed _ => ""
  | .verdict _ => ""
  | .failed f => f.report ++ "\n"
  | .misused f => "error: " ++ f.message ++ "\n"

def code : Ending → UInt32
  | .printed _ => 0
  | .verdict holds => if holds then 0 else 1
  | .failed _ => 1
  | .misused _ => 2

end Ending

inductive Action where
  | finish (ending : Ending)
  | readFile (path : String) (next : Except FileFault String → Action)
  | readInput (next : Except FileFault String → Action)
  | connect (url : String) (connections : UInt32) (next : Except ConnectionFault Unit → Action)
  | send (request : Request) (next : Reply → Action)

namespace Action

def fail (f : Failure) : Action := .finish (.failed f)

/-- An operation on a store, and what comes after it. -/
def ofOperation (o : Operation α) (next : Except StoreError α → Action) : Action :=
  match o with
  | .done outcome => next outcome
  | .send request more => .send request fun reply => ofOperation (more reply) next

/-- The answers to all that an action can ask for. -/
structure Answers where
  file : String → Except FileFault String
  input : Except FileFault String
  database : String → UInt32 → Except ConnectionFault Unit
  replies : List Reply

/-- The ending of an action and the requests it sent. -/
structure Outcome where
  ending : Ending
  sent : List Request

def run (given : Answers) : Action → Outcome
  | .finish ending => ⟨ending, []⟩
  | .readFile path next => run given (next (given.file path))
  | .readInput next => run given (next given.input)
  | .connect url connections next => run given (next (given.database url connections))
  | .send request next =>
    let rest :=
      run { given with replies := given.replies.tail } (next (given.replies.headD .unscripted))
    ⟨rest.ending, request :: rest.sent⟩

/-- An action that runs an operation sends the operation's requests first. -/
theorem run_ofOperation (given : Answers) (o : Operation α)
    (next : Except StoreError α → Action) :
    (ofOperation o next).run given =
      let r := o.run given.replies
      let rest := (next r.outcome).run { given with replies := r.left }
      ⟨rest.ending, r.sent ++ rest.sent⟩ := by
  induction o generalizing given with
  | done outcome => rfl
  | send request more ih => simp [ofOperation, run, Operation.run, ih]

end Action

end Command
end Sieve
