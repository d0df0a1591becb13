import Sieve.Command.Options

/-!
# Sieve.Command.Invocation

The words of a command line, read from the first to the last. A word with two hyphens is a flag, a
word with one hyphen is a row of letters, and after a word of just two hyphens no word is a flag. A
flag takes its value from its own word, or else from the next word if that is no flag.
-/

namespace Sieve
namespace Command

inductive Word where
  /-- Two hyphens alone. -/
  | separator
  | long (name : String) (value : Option String)
  | letters (cs : List Char)
  | plain (text : String)
  deriving DecidableEq, Repr

namespace Word

/-- The value after a name, if there is an equals sign. -/
def attached? : List Char → Option String
  | '=' :: value => some (String.ofList value)
  | _ => none

def ofString (s : String) : Word :=
  match s.toList with
  | ['-', '-'] => .separator
  | '-' :: '-' :: cs =>
    .long (String.ofList (cs.takeWhile (· != '='))) (attached? (cs.dropWhile (· != '=')))
  | '-' :: c :: cs => .letters (c :: cs)
  | _ => .plain s

end Word

/-- Why no command is run. -/
inductive Stop where
  | help (topic : Topic) (full : Bool)
  | version
  | misused (fault : UsageFault)
  deriving DecidableEq, Repr

/-- The values read so far. -/
structure Reading where
  options : Options := {}
  /-- The last flag, whose value is looked at when the next flag or the predicate comes. -/
  last : Option (Flag × Option String) := none

namespace Reading

/-- The values with that of the last flag among them. -/
def settled (r : Reading) : Except Stop Options :=
  match r.last with
  | none => .ok r.options
  | some (flag, none) => .error (.misused (.valueMissing flag))
  | some (flag, some value) => (r.options.put flag value).mapError .misused

/-- Reads a flag with the value that its own word gives. -/
def flag (r : Reading) (topic : Topic) (full : Bool) (f : Flag) (attached : Option String) :
    Except Stop Reading :=
  match r.settled with
  | .error stop => .error stop
  | .ok o =>
    match f.takesValue, attached with
    | true, none => .ok ⟨o, some (f, none)⟩
    | true, some value => ((o.put f value).mapError .misused).map fun o => ⟨o, none⟩
    | false, some _ => .error (.misused (.valueNeedless f))
    | false, none =>
      match f with
      | .help => .error (.help topic full)
      | .version => .error .version
      | _ => ((o.put f "").mapError .misused).map fun o => ⟨o, none⟩

/-- The value in the letters after a letter, with or without an equals sign. -/
def valueAfter : List Char → Option String
  | [] => none
  | '=' :: value => some (String.ofList value)
  | value => some (String.ofList value)

/-- Reads letters as flags up to one that takes a value. -/
def letters (r : Reading) (topic : Topic) : List Char → Except Stop Reading
  | [] => .ok r
  | c :: cs =>
    match topic.flags.find? fun f => f.letter? == some c with
    | none => .error (.misused (.unknownFlag (String.ofList ['-', c])))
    | some f =>
      if f.takesValue then r.flag topic false f (valueAfter cs)
      else
        match r.flag topic false f none with
        | .error stop => .error stop
        | .ok r => r.letters topic cs

def long (r : Reading) (topic : Topic) (name : String) (value : Option String) :
    Except Stop Reading :=
  match topic.flags.find? fun f => f.name == name with
  | none => .error (.misused (.unknownFlag ("--" ++ name)))
  | some f => r.flag topic true f value

end Reading

/-- The predicate among the words after the separator. -/
def readPlain (predicate : Option String) (r : Reading) (words : List String) :
    Except Stop (Options × Option String) :=
  match r.settled, predicate, words with
  | .error stop, _, _ => .error stop
  | .ok o, p, [] => .ok (o, p)
  | .ok o, none, [word] => .ok (o, some word)
  | .ok _, none, _ :: word :: _ => .error (.misused (.extraWord word))
  | .ok _, some _, word :: _ => .error (.misused (.extraWord word))

/-- The values and the predicate after a verb. -/
def readAfter (v : Verb) (predicate : Option String) (r : Reading) :
    List String → Except Stop (Options × Option String)
  | [] => r.settled.map fun o => (o, predicate)
  | word :: words =>
    match Word.ofString word with
    | .separator => readPlain predicate r words
    | .long name value =>
      match r.long (.verb v) name value with
      | .error stop => .error stop
      | .ok r => readAfter v predicate r words
    | .letters cs =>
      match r.letters (.verb v) cs with
      | .error stop => .error stop
      | .ok r => readAfter v predicate r words
    | .plain text =>
      match r.last with
      | some (f, none) => readAfter v predicate ⟨r.options, some (f, some text)⟩ words
      | _ =>
        match r.settled, predicate with
        | .error stop, _ => .error stop
        | .ok _, some _ => .error (.misused (.extraWord text))
        | .ok o, none => readAfter v (some text) ⟨o, none⟩ words

/-- What is done with the predicate. -/
inductive Job where
  | parse
  | compile (store : Option String) (first : UInt64)
  | check (document : Option String)
  | count (store : String)
  | find (store : String) (page : UInt64) (limit : Option UInt64)
  deriving DecidableEq, Repr

structure Invocation where
  /-- The settings file, if one is named. -/
  config : Option String
  predicate : String
  format : InputFormat
  job : Job

namespace Invocation

def withStore (o : Options) (f : String → Job) : Except Stop Job :=
  match o.store with
  | some name => .ok (f name)
  | none => .error (.misused (.flagMissing .store))

def jobOf (o : Options) : Verb → Except Stop Job
  | .parse => .ok .parse
  | .compile => .ok (.compile o.store (o.firstPlaceholder.getD 1))
  | .check => .ok (.check o.document)
  | .count => withStore o .count
  | .find => withStore o fun name => .find name (o.page.getD 0) o.limit

def make (v : Verb) (o : Options) (predicate : Option String) : Except Stop Invocation :=
  match predicate, jobOf o v with
  | none, _ => .error (.misused .predicateMissing)
  | some _, .error stop => .error stop
  | some p, .ok job => .ok ⟨o.config, p, o.format.getD .auto, job⟩

/-- The topic that words after `help` name. -/
def topicOf : List String → Stop
  | [] => .help .program true
  | [word] =>
    if word = "help" then .help .help true
    else
      match Verb.read? word with
      | some v => .help (.verb v) true
      | none => .misused (.unknownVerb word)
  | word :: other :: _ =>
    if word = "help" ∨ (Verb.read? word).isSome then .misused (.unknownVerb other)
    else .misused (.unknownVerb word)

/-- Reads words up to the verb, and then what follows the verb. -/
def readFrom (r : Reading) : List String → Except Stop Invocation
  | [] =>
    match r.settled with
    | .error stop => .error stop
    | .ok _ => .error (.misused .verbMissing)
  | word :: words =>
    match Word.ofString word with
    | .separator => .error (.misused .verbMissing)
    | .long name value =>
      match r.long .program name value with
      | .error stop => .error stop
      | .ok r => readFrom r words
    | .letters cs =>
      match r.letters .program cs with
      | .error stop => .error stop
      | .ok r => readFrom r words
    | .plain text =>
      match r.last with
      | some (f, none) => readFrom ⟨r.options, some (f, some text)⟩ words
      | _ =>
        if text = "help" then .error (topicOf words)
        else
          match Verb.read? text with
          | none => .error (.misused (.unknownVerb text))
          | some v => do
            let (after, predicate) ← readAfter v none {} words
            let before ← r.settled
            make v (after.onTopOf before) predicate

/-- The invocation that the words after the program's name ask for. -/
def read (words : List String) : Except Stop Invocation := readFrom {} words

end Invocation

end Command
end Sieve
