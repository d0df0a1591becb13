import Sieve.Predicate.Input
import Sieve.Settings.Catalog
import Sieve.Store.Connection

/-!
# Sieve.Command.Failure

Why a command failed, and the report on it: a headline and the causes behind it, from the outside
in.
-/

namespace Sieve
namespace Command

inductive Failure where
  | settings (e : SettingsError)
  | predicate (f : InputFault)
  | firstPlaceholder
  | unknownStore (name : String)
  | catalog (f : CatalogFault)
  | document (path : String) (f : FileFault)
  /-- The standard input cannot be read. -/
  | input (f : FileFault)
  | notJson
  | connection (f : ConnectionFault)
  | count (table : String) (e : StoreError)
  | find (table : String) (e : StoreError)

namespace Failure

def headline : Failure → String
  | .settings _ => "failed to load configuration"
  | .predicate f => f.message
  | .firstPlaceholder => "--first-placeholder must be at least 1"
  | .unknownStore name => "store '" ++ name ++ "' is not configured"
  | .catalog f => f.message
  | .document path _ => "failed to read " ++ path
  | .input _ => "failed to read document from stdin"
  | .notJson => "document is not valid JSON"
  | .connection _ => "failed to connect to database"
  | .count table _ => "count on " ++ table ++ " failed"
  | .find table _ => "find on " ++ table ++ " failed"

def causes : Failure → List String
  | .settings e => e.texts
  | .predicate f => [f.cause.message]
  | .document _ f => [f.message]
  | .input f => [f.message]
  | .connection f => f.texts
  | .count _ e => e.texts
  | .find _ e => e.texts
  | _ => []

/-- The lines of a text, all but the first behind an indent. -/
def hanging (indent text : String) : String := ("\n" ++ indent).intercalate (text.splitOn "\n")

/-- A number right-aligned in five columns. -/
def numberText (n : Nat) : String :=
  let digits := toString n
  String.ofList (List.replicate (5 - digits.length) ' ') ++ digits

def numbered (n : Nat) : List String → String
  | [] => ""
  | text :: more => "\n" ++ numberText n ++ ": " ++ hanging "       " text ++ numbered (n + 1) more

/-- The causes under a headline; several of them are numbered. -/
def causesText : List String → String
  | [] => ""
  | [text] => "\n\nCaused by:\n    " ++ hanging "    " text
  | texts => "\n\nCaused by:" ++ numbered 0 texts

def report (f : Failure) : String := "Error: " ++ f.headline ++ causesText f.causes

end Failure

end Command
end Sieve
