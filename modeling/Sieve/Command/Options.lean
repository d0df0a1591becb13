import Sieve.Command.Flag
import Sieve.Number.Reader
import Sieve.Predicate.Input

/-!
# Sieve.Command.Options

The values that a command line gives to its flags. A flag is given once in each place; a value after
the verb counts more than one before it.
-/

namespace Sieve
namespace Command

/-- Why a command line is not understood. -/
inductive UsageFault where
  | unknownFlag (word : String)
  | unknownVerb (word : String)
  | extraWord (word : String)
  | valueMissing (flag : Flag)
  | valueRefused (flag : Flag) (value : String)
  /-- A switch is given a value. -/
  | valueNeedless (flag : Flag)
  | repeated (flag : Flag)
  | verbMissing
  | predicateMissing
  | flagMissing (flag : Flag)
  deriving DecidableEq, Repr

namespace UsageFault

def flagText (f : Flag) : String := "'--" ++ f.name ++ "'"

def message : UsageFault → String
  | .unknownFlag word => "unknown flag '" ++ word ++ "'"
  | .unknownVerb word => "unknown command '" ++ word ++ "'"
  | .extraWord word => "unexpected word '" ++ word ++ "'"
  | .valueMissing flag => flagText flag ++ " needs a value"
  | .valueRefused flag value => "'" ++ value ++ "' is no value for " ++ flagText flag
  | .valueNeedless flag => flagText flag ++ " takes no value"
  | .repeated flag => flagText flag ++ " is given more than once"
  | .verbMissing => "no command is given"
  | .predicateMissing => "no predicate is given"
  | .flagMissing flag => flagText flag ++ " is required"

end UsageFault

structure Options where
  config : Option String := none
  logLevel : Option String := none
  jsonLogs : Option Unit := none
  format : Option InputFormat := none
  store : Option String := none
  firstPlaceholder : Option UInt64 := none
  document : Option String := none
  page : Option UInt64 := none
  limit : Option UInt64 := none

namespace Options

/-- Fills a place that has to be empty with a value that has to be one. -/
def fill (flag : Flag) (text : String) (place value : Option α) : Except UsageFault (Option α) :=
  match place, value with
  | some _, _ => .error (.repeated flag)
  | none, none => .error (.valueRefused flag text)
  | none, some a => .ok (some a)

/-- A path, which is never empty. -/
def path? (s : String) : Option String := if s = "" then none else some s

def format? : String → Option InputFormat
  | "auto" => some .auto
  | "json" => some .json
  | "text" => some .text
  | _ => none

/-- Gives a flag its value; a switch is given any text. -/
def put (o : Options) (flag : Flag) (s : String) : Except UsageFault Options :=
  match flag with
  | .config => (fill flag s o.config (path? s)).map fun v => { o with config := v }
  | .logLevel => (fill flag s o.logLevel (some s)).map fun v => { o with logLevel := v }
  | .jsonLogs => (fill flag s o.jsonLogs (some ())).map fun v => { o with jsonLogs := v }
  | .format => (fill flag s o.format (format? s)).map fun v => { o with format := v }
  | .store => (fill flag s o.store (some s)).map fun v => { o with store := v }
  | .firstPlaceholder =>
    (fill flag s o.firstPlaceholder (UInt64.read? s.toList)).map fun v =>
      { o with firstPlaceholder := v }
  | .document => (fill flag s o.document (path? s)).map fun v => { o with document := v }
  | .page => (fill flag s o.page (UInt64.read? s.toList)).map fun v => { o with page := v }
  | .limit => (fill flag s o.limit (UInt64.read? s.toList)).map fun v => { o with limit := v }
  | .help => .ok o
  | .version => .ok o

/-- What is given after the verb, and where nothing is what is given before it. -/
def onTopOf (after before : Options) : Options where
  config := after.config.or before.config
  logLevel := after.logLevel.or before.logLevel
  jsonLogs := after.jsonLogs.or before.jsonLogs
  format := after.format.or before.format
  store := after.store.or before.store
  firstPlaceholder := after.firstPlaceholder.or before.firstPlaceholder
  document := after.document.or before.document
  page := after.page.or before.page
  limit := after.limit.or before.limit

end Options

end Command
end Sieve
