/-!
# Sieve.Command.Flag

The flags and verbs of the command line. Some flags may stand before the verb as well as after it.
-/

namespace Sieve
namespace Command

inductive Flag where
  | config
  | logLevel
  | jsonLogs
  | format
  | store
  | firstPlaceholder
  | document
  | page
  | limit
  | help
  | version
  deriving DecidableEq, Repr

namespace Flag

/-- The word after two hyphens. -/
def name : Flag → String
  | .config => "config"
  | .logLevel => "log-level"
  | .jsonLogs => "json-logs"
  | .format => "format"
  | .store => "store"
  | .firstPlaceholder => "first-placeholder"
  | .document => "document"
  | .page => "page"
  | .limit => "limit"
  | .help => "help"
  | .version => "version"

/-- The letter after one hyphen. -/
def letter? : Flag → Option Char
  | .config => some 'c'
  | .logLevel => some 'l'
  | .store => some 's'
  | .document => some 'd'
  | .help => some 'h'
  | .version => some 'V'
  | _ => none

/-- What the value of a flag is called in help; a switch has no value. -/
def value? : Flag → Option String
  | .config => some "CONFIG"
  | .logLevel => some "LOG_LEVEL"
  | .format => some "FORMAT"
  | .store => some "STORE"
  | .firstPlaceholder => some "FIRST_PLACEHOLDER"
  | .document => some "DOCUMENT"
  | .page => some "PAGE"
  | .limit => some "LIMIT"
  | .jsonLogs => none
  | .help => none
  | .version => none

def takesValue (f : Flag) : Bool := f.value?.isSome

/-- The flags that may stand anywhere. -/
def shared : List Flag := [.config, .logLevel, .jsonLogs]

end Flag

inductive Verb where
  | parse
  | compile
  /-- Tells whether a document satisfies a predicate. -/
  | check
  | count
  | find
  deriving DecidableEq, Repr

namespace Verb

def all : List Verb := [.parse, .compile, .check, .count, .find]

def name : Verb → String
  | .parse => "parse"
  | .compile => "compile"
  | .check => "match"
  | .count => "count"
  | .find => "find"

def read? (s : String) : Option Verb := all.find? fun v => v.name == s

theorem read?_name (v : Verb) : read? v.name = some v := by
  cases v <;> decide

/-- The flags that only this verb and verbs like it have. -/
def flags : Verb → List Flag
  | .parse => [.format]
  | .compile => [.format, .store, .firstPlaceholder]
  | .check => [.format, .document]
  | .count => [.format, .store]
  | .find => [.format, .store, .page, .limit]

/-- Rows come from a store, which has to be named. -/
def needsStore : Verb → Bool
  | .count => true
  | .find => true
  | _ => false

end Verb

/-- What flags and help are about. -/
inductive Topic where
  | program
  | verb (v : Verb)
  | help
  deriving DecidableEq, Repr

/-- The flags that are understood where a topic is at hand. -/
def Topic.flags : Topic → List Flag
  | .program => Flag.shared ++ [.help, .version]
  | .verb v => v.flags ++ Flag.shared ++ [.help]
  | .help => []

end Command
end Sieve
