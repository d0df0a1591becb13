import Sieve.Number.Reader
import Sieve.Settings.Decode
import Sieve.Text.Ascii

/-!
# Sieve.Settings.Source

Where layers come from: the built-in defaults, a file, the environment. Sources are laid over one
another by their precedence, whatever the order in which they are given; the first source that
fails, from the lowest precedence up, decides the error.
-/

namespace Sieve
namespace Settings

inductive Precedence where
  | defaults
  | file
  | environment
  deriving DecidableEq, Repr

def Precedence.rank : Precedence → Nat
  | .defaults => 10
  | .file => 20
  | .environment => 50

/-- A source with what loading it gives. -/
structure Source where
  name : String
  precedence : Precedence
  outcome : Except SettingsError Layer

/-- The values of environment variables. -/
abbrev Environment := Dict String

namespace Environment

/-- A variable that is set and not empty. -/
def value? (env : Environment) (name : String) : Option String :=
  (env.get? name).filter fun s => s != ""

/-- A variable that says yes or no: `true` in any case of ASCII letters, or `1`, means yes. -/
def flag? (env : Environment) (name : String) : Option Bool :=
  (value? env name).map fun s => Text.sameIgnoringCase s "true" || s == "1"

/-- A variable that holds a whole number. -/
def count? (env : Environment) (name : String) (bits : Nat) (read : List Char → Option α) :
    Except SettingsError (Option α) :=
  match value? env name with
  | none => .ok none
  | some s =>
    match read s.toList with
    | some n => .ok (some n)
    | none => .error (.notCount name s bits)

def layer (env : Environment) : Except SettingsError Layer := do
  let maxConnections ← count? env "KEEL_DATABASE_MAX_CONNECTIONS" 32 UInt32.read?
  let usual ← count? env "KEEL_QUERY_DEFAULT_PAGE_SIZE" 64 UInt64.read?
  let greatest ← count? env "KEEL_QUERY_MAX_PAGE_SIZE" 64 UInt64.read?
  return {
    database := some { url := value? env "KEEL_DATABASE_URL", maxConnections := maxConnections }
    logging := some { level := value? env "KEEL_LOG_LEVEL", json := flag? env "KEEL_LOG_JSON" }
    query := some { defaultPageSize := usual, maxPageSize := greatest } }

end Environment

/-- The layer of a file; a file that is not there gives an empty one. -/
def fileLayer (path : String) : Except FileFault String → Except SettingsError Layer
  | .error .missing => .ok .empty
  | .error fault => .error (.unreadableFile path fault)
  | .ok s =>
    match readLayer? s with
    | some l => .ok l
    | none => .error (.malformedFile path)

namespace Source

def defaults : Source := ⟨"defaults", .defaults, .ok .empty⟩

def file (path : String) (content : Except FileFault String) : Source :=
  ⟨"toml-config", .file, fileLayer path content⟩

def environment (env : Environment) : Source := ⟨"environment", .environment, env.layer⟩

/-- Lays sources over a layer, from the first to the last. -/
def stack (base : Layer) : List Source → Except SettingsError Layer
  | [] => .ok base
  | s :: more =>
    match s.outcome with
    | .error e => .error e
    | .ok l => stack (base.merge l) more

def byPrecedence (sources : List Source) : List Source :=
  sources.mergeSort fun a b => a.precedence.rank ≤ b.precedence.rank

end Source

/-- The settings that sources amount to. -/
def load (sources : List Source) : Except SettingsError Settings :=
  match Source.stack .empty (Source.byPrecedence sources) with
  | .error e => .error e
  | .ok l => l.settings

/-- The settings from the defaults, a file and the environment. -/
def loadWithFile (path : String) (content : Except FileFault String) (env : Environment) :
    Except SettingsError Settings :=
  load [.defaults, .file path content, .environment env]

/-- Where the file is when nobody says where. -/
def systemPath : String := "/etc/keel/keel.toml"

/-- The settings from the environment alone. -/
def loadFromEnvironment (env : Environment) : Except SettingsError Settings :=
  load [.environment env]

end Settings
end Sieve
