import Sieve.Command.Flag

/-!
# Sieve.Command.Help

The help on the program and its verbs: a short form with one line for each flag, and a full form
with a paragraph for each.
-/

namespace Sieve
namespace Command

def programName : String := "keel"

/-- The program with its version. -/
def versionText : String := programName ++ " 0.1.0"

namespace Verb

def about : Verb → String
  | .parse => "Parse a predicate and print its JSON and expression forms"
  | .compile => "Compile a predicate to a Postgres WHERE fragment"
  | .check => "Evaluate a predicate against a JSON document; exits 1 on no match"
  | .count => "Count rows of a configured store that satisfy a predicate"
  | .find => "Print one page of matching rows of a configured store as JSON"

end Verb

namespace Flag

/-- The place of a flag among the others, and what decides between flags of one place. -/
def place (v : Option Verb) (f : Flag) : Nat × String :=
  let own := ((v.map Verb.flags).getD []).idxOf? f
  let index := (own.or (shared.idxOf? f)).getD 999
  let key :=
    match f.letter? with
    | some c => String.ofList [c.toLower, if c.isLower then '0' else '1']
    | none => f.name
  (index, key)

def precedes (v : Option Verb) (a b : Flag) : Bool :=
  let (i, s) := a.place v
  let (j, t) := b.place v
  i < j || (i == j && decide (s ≤ t))

/-- The flag with the name of its value. -/
def usage (f : Flag) : String :=
  match f.value? with
  | some value => "--" ++ f.name ++ " <" ++ value ++ ">"
  | none => "--" ++ f.name

/-- The flag with its letter, or with room for one. -/
def heading (f : Flag) : String :=
  match f.letter? with
  | some c => String.ofList ['-', c, ',', ' '] ++ f.usage
  | none => "    " ++ f.usage

/-- What a flag is for. -/
def about (topic : Topic) (full : Bool) : Flag → String
  | .config => "Path to configuration file"
  | .logLevel => "Log filter (overrides config)"
  | .jsonLogs => "Output logs as JSON (overrides config)"
  | .store =>
    if topic = .verb .compile then "Store whose document fields and mappings apply" else ""
  | .firstPlaceholder => "Number of the first placeholder"
  | .document => "Document file (reads stdin when omitted)"
  | .page => "Zero-based page number"
  | .limit => "Rows per page (defaults to query.default_page_size)"
  | .help =>
    if topic = .program then "Print help"
    else if full then "Print help (see a summary with '-h')"
    else "Print help (see more with '--help')"
  | .version => "Print version"
  | .format => ""

/-- The value of a flag that is not given. -/
def usual? : Flag → Option String
  | .format => some "auto"
  | .firstPlaceholder => some "1"
  | .page => some "0"
  | _ => none

/-- The values of a flag that has only some, with what is said of them. -/
def values : Flag → List (String × String)
  | .format =>
    [("auto", ": JSON when the input starts with `\x7b`, expression text otherwise"), ("json", ""),
      ("text", "")]
  | _ => []

end Flag

namespace Topic

/-- Texts that are not empty, with something between them. -/
def joined (between : String) (texts : List String) : String :=
  between.intercalate (texts.filter fun s => s != "")

def spaces (n : Nat) : String := String.ofList (List.replicate n ' ')

def usualText (f : Flag) : String :=
  match f.usual? with
  | some value => "[default: " ++ value ++ "]"
  | none => ""

def valuesText (f : Flag) : String :=
  if f.values.isEmpty then ""
  else "[possible values: " ++ ", ".intercalate (f.values.map Prod.fst) ++ "]"

/-- Lines of two columns, the first as wide as its longest entry. -/
def columns (rows : List (String × String)) : List String :=
  let width := (rows.map fun row => row.1.length).foldl max 0
  rows.map fun (left, right) => "  " ++ left ++ spaces (width - left.length + 2) ++ right

def paragraphIndent : String := spaces 10

/-- The values of a flag that has only some, one on each line. -/
def valueLines (f : Flag) : String :=
  if f.values.isEmpty then ""
  else
    "Possible values:" ++
      String.join (f.values.map fun (name, text) => "\n" ++ paragraphIndent ++ "- " ++ name ++ text)

/-- A flag and what is said of it, on lines of their own. -/
def paragraph (topic : Topic) (f : Flag) : String :=
  "  " ++ f.heading ++ "\n" ++ paragraphIndent ++
    joined ("\n" ++ paragraphIndent ++ "\n" ++ paragraphIndent)
      [f.about topic true, valueLines f, usualText f]

def line (topic : Topic) (f : Flag) : String × String :=
  (f.heading, joined " " [f.about topic false, usualText f, valuesText f])

def flagLines (topic : Topic) (v : Option Verb) (full : Bool) : String :=
  let flags := topic.flags.mergeSort (Flag.precedes v)
  if full then "\n\n".intercalate (flags.map (paragraph topic))
  else "\n".intercalate (columns (flags.map (line topic)))

/-- What is said of the verb that gives help. -/
def helpAbout : String := "Print this message or the help of the given subcommand(s)"

/-- What is said of the program. -/
def programAbout : String := "Operator CLI for inspecting, compiling and evaluating Keel predicates"

def programHelp : String :=
  programAbout ++ "\n\nUsage: " ++ programName ++ " [OPTIONS] <COMMAND>\n\nCommands:\n" ++
    "\n".intercalate (columns
      (Verb.all.map (fun v => (v.name, v.about)) ++ [("help", helpAbout)])) ++
    "\n\nOptions:\n" ++ flagLines .program none false ++ "\n"

def verbHelp (v : Verb) (full : Bool) : String :=
  let required := if v.needsStore then Flag.store.usage ++ " " else ""
  let room := if full then "\n" ++ paragraphIndent else "  "
  v.about ++ "\n\nUsage: " ++ programName ++ " " ++ v.name ++ " [OPTIONS] " ++ required ++
    "<PREDICATE>\n\nArguments:\n  <PREDICATE>" ++ room ++ "\n\nOptions:\n" ++
    flagLines (.verb v) (some v) full ++ "\n"

def helpHelp : String :=
  helpAbout ++ "\n\nUsage: " ++ programName ++
    " help [COMMAND]...\n\nArguments:\n  [COMMAND]...  Print help for the subcommand(s)\n"

/-- The help on a topic. -/
def text (topic : Topic) (full : Bool) : String :=
  match topic with
  | .program => programHelp
  | .verb v => verbHelp v full
  | .help => helpHelp

end Topic

end Command
end Sieve
