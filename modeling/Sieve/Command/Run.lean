import Sieve.Command.Invocation
import Sieve.Command.Action
import Sieve.Matching
import Sieve.Settings.Source

/-!
# Sieve.Command.Run

What each command does. Settings are loaded before anything else; a store is looked up before the
predicate is read; nothing is sent to the database before all of that has succeeded.
-/

namespace Sieve
namespace Command

def line (text : String) : Action := .finish (.printed (text ++ "\n"))

/-- Goes on with a value, or ends with the failure to get one. -/
def withValue (r : Except Failure α) (next : α → Action) : Action :=
  match r with
  | .ok a => next a
  | .error f => .fail f

def storeNamed (s : Settings) (name : String) : Except Failure StoreSettings :=
  match s.store? name with
  | some store => .ok store
  | none => .error (.unknownStore name)

/-- The catalog of a store, or the empty one if no store is named. -/
def catalogOf : Option StoreSettings → Except Failure Sql.Catalog
  | some store => store.catalog.mapError .catalog
  | none => .ok .empty

namespace Invocation

def readPredicate (i : Invocation) : Except Failure Predicate :=
  (Predicate.readInput i.predicate i.format).mapError .predicate

def compile (i : Invocation) (s : Settings) (store : Option String) (first : UInt64) :
    Except Failure String := do
  if first = 0 then throw .firstPlaceholder
  let store ← store.mapM (storeNamed s)
  let p ← i.readPredicate
  let c ← catalogOf store
  let compiled := Sql.compileFrom c p first.toNat
  return Sql.describe compiled.sql compiled.arguments first.toNat

/-- The verdict on the text of a document. -/
def verdict (p : Predicate) (s : String) : Action :=
  match Json.read? s with
  | some j => .finish (.verdict (p.holds (Entity.ofJson j)))
  | none => .fail .notJson

def check (i : Invocation) (document : Option String) : Action :=
  withValue i.readPredicate fun p =>
    match document with
    | some path =>
      .readFile path fun content => withValue (content.mapError (.document path)) (verdict p)
    | none => .readInput fun content => withValue (content.mapError .input) (verdict p)

/-- Runs an operation on the documents of a store. -/
def query (i : Invocation) (s : Settings) (name : String)
    (operation : Store Json → Predicate → Operation α) (failure : String → StoreError → Failure)
    (shown : α → String) : Action :=
  let prepared : Except Failure (Predicate × Store Json) := do
    let store ← storeNamed s name
    let p ← i.readPredicate
    let documents ← (store.documentStore s.query).mapError .catalog
    return (p, documents)
  withValue prepared fun (p, documents) =>
    .connect s.database.url s.database.maxConnections fun connected =>
      withValue (connected.mapError .connection) fun () =>
        .ofOperation (operation documents p) fun outcome =>
          withValue (outcome.mapError (failure documents.table)) fun a => line (shown a)

/-- A page as a document whose members stand in an order of their own. -/
def pageDocument (p : Page Json) : Json :=
  .object [("items", .array p.items), ("total", .integer (.ofInt64 p.total)),
    ("offset", .integer (.ofUInt64 p.offset)), ("limit", .integer (.ofUInt64 p.limit))]

/-- What an invocation does when the settings are loaded. -/
def actionWith (i : Invocation) (s : Settings) : Action :=
  match i.job with
  | .parse => withValue i.readPredicate fun p => line p.describe
  | .compile store first => withValue (i.compile s store first) line
  | .check document => i.check document
  | .count store =>
    i.query s store (fun documents p => documents.count (some p)) .count fun n => toString n.toInt
  | .find store page limit =>
    i.query s store (fun documents p => documents.findPage (some p) (s.query.page page limit)) .find
      fun p => (pageDocument p).pretty

def action (i : Invocation) (env : Settings.Environment) : Action :=
  let path := i.config.getD Settings.systemPath
  .readFile path fun content =>
    withValue ((Settings.loadWithFile path content env).mapError .settings) i.actionWith

end Invocation

/-- The ending that takes the place of a command. -/
def Stop.ending : Stop → Ending
  | .help topic full => .printed (topic.text full)
  | .version => .printed (versionText ++ "\n")
  | .misused f => .misused f

/-- What the program does with the words of its command line and its environment. -/
def start (words : List String) (env : Settings.Environment) : Action :=
  match Invocation.read words with
  | .ok i => i.action env
  | .error stop => .finish stop.ending

end Command
end Sieve
