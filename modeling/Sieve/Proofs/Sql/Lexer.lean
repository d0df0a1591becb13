import Mathlib.Data.List.Chain
import Sieve.Proofs.Number.Text
import Sieve.Sql.Token

/-!
# Sieve.Proofs.Sql.Lexer

SQL text cut into tokens the way the server cuts it. A quoted name or a text ends at the first quote
that is not doubled, a backslash being an ordinary character; a placeholder is a dollar sign and
digits; a word and an operator are the longest runs of their characters. What the server reads in
some other way is refused: comments, blanks other than the space, numbers with a point, texts with a
prefix, texts between dollar signs.

* `lexToken?_chars`: a token is cut off where its characters end.
* `lex_textOf`: tokens that can stand next to each other are what their text is cut into.
-/

namespace Sieve
namespace Sql

open Text

def startsWord (c : Char) : Bool := c.isAlpha || c == '_' || 128 ≤ c.toNat

def continuesWord (c : Char) : Bool := startsWord c || c.isDigit || c == '$'

def operatorChars : List Char :=
  ['+', '-', '*', '/', '<', '>', '=', '~', '!', '@', '#', '%', '^', '&', '|', '?']

def isOperatorChar (c : Char) : Bool := operatorChars.contains c

/-- A run of operator characters that is one operator: no comment starts in it, and it does not end
in a sign unless it is one. -/
def isOperator (cs : List Char) : Bool :=
  cs.all isOperatorChar && !contains cs ['-', '-'] && !contains cs ['/', '*'] &&
    (cs.length == 1 || cs.getLast?.all fun c => c != '+' && c != '-')

/-- After a word: a text with the word as its prefix. -/
def startsPrefixed (c : Char) : Bool := c == '\x27' || c == '&'

/-- After digits: a word or a fraction. -/
def continuesNumber (c : Char) : Bool := continuesWord c || c == '.'

/-- After a point: a range or a fraction. -/
def continuesPoint (c : Char) : Bool := c == '.' || c.isDigit

/-- The longest run of characters of a class, if what follows it does not start with a character of
another one. -/
def lexRun (p stop : Char → Bool) (cs : List Char) : Option (List Char × List Char) :=
  let rest := cs.dropWhile p
  if rest.head?.any stop then none else some (cs.takeWhile p, rest)

def lexDigits (cs : List Char) : Option (Nat × List Char) := do
  let (digits, rest) ← lexRun Char.isDigit continuesNumber cs
  let n ← Natural.readDigits? digits
  return (n, rest)

def lexOperator (cs : List Char) : Option (Token × List Char) := do
  let (run, rest) ← lexRun isOperatorChar (fun _ => false) cs
  if isOperator run then some (.mark (String.ofList run), rest) else none

/-- A mark that is no operator. -/
def lexPunctuation (cs : List Char) : Option (Token × List Char) :=
  match cs with
  | '(' :: rest => some (.mark "(", rest)
  | ')' :: rest => some (.mark ")", rest)
  | ',' :: rest => some (.mark ",", rest)
  | ':' :: ':' :: rest => some (.mark "::", rest)
  | '.' :: rest => if rest.head?.any continuesPoint then none else some (.mark ".", rest)
  | _ => none

/-- The first token, and what follows it. -/
def lexToken? (cs : List Char) : Option (Token × List Char) :=
  match cs with
  | [] => none
  | c :: rest =>
    if c = ' ' then some (.blank, rest)
    else if c = '"' then
      (unclosed '"' rest).map fun (name, rest) => (.quoted (String.ofList name), rest)
    else if c = '\x27' then
      (unclosed '\x27' rest).map fun (text, rest) => (.string (String.ofList text), rest)
    else if c = '$' then (lexDigits rest).map fun (n, rest) => (.param n, rest)
    else if c.isDigit then (lexDigits cs).map fun (n, rest) => (.number n, rest)
    else if startsWord c then
      (lexRun continuesWord startsPrefixed cs).map fun (w, rest) =>
        (.word (String.ofList w), rest)
    else if isOperatorChar c then lexOperator cs
    else lexPunctuation cs

/-- The tokens of a text, where the fuel is no less than its length. -/
def lexFrom : Nat → List Char → Option (List Token)
  | _, [] => some []
  | 0, _ :: _ => none
  | fuel + 1, c :: cs => do
    let (t, rest) ← lexToken? (c :: cs)
    let ts ← lexFrom fuel rest
    return t :: ts

def lex (s : String) : Option (List Token) := lexFrom s.toList.length s.toList

namespace Token

/-- The token is written so that it can be told. -/
def IsWritable : Token → Prop
  | .word s => s.toList.head?.any startsWord = true ∧ s.toList.all continuesWord = true
  | .mark s => s ∈ ["(", ")", ",", "::", "."] ∨ (s.toList ≠ [] ∧ isOperator s.toList = true)
  | _ => True

instance : DecidablePred IsWritable
  | .word _ => inferInstanceAs (Decidable (_ ∧ _))
  | .mark _ => inferInstanceAs (Decidable (_ ∨ _))
  | .quoted _ | .string _ | .param _ | .number _ | .blank => inferInstanceAs (Decidable True)

/-- A character that would be taken for more of the token. -/
def goesOn : Token → Char → Bool
  | .word _ => fun c => continuesWord c || startsPrefixed c
  | .quoted _ => fun c => c == '"'
  | .string _ => fun c => c == '\x27'
  | .param _ => continuesNumber
  | .number _ => continuesNumber
  | .mark s =>
    if s = "." then continuesPoint
    else if s.toList.head?.any isOperatorChar then isOperatorChar
    else fun _ => false
  | .blank => fun _ => false

end Token

section Token

variable {rest : List Char}

theorem any_of_stops {p : Char → Bool} (h : Stops p rest) : rest.head?.any p = false := by
  cases rest with
  | nil => rfl
  | cons c rest => simpa using stops_cons.1 h

theorem stops_never (rest : List Char) : Stops (fun _ => false) rest := fun _ _ => rfl

theorem lexRun_append {p stop : Char → Bool} {run : List Char} (hrun : ∀ c ∈ run, p c = true)
    (hp : Stops p rest) (hstop : Stops stop rest) :
    lexRun p stop (run ++ rest) = some (run, rest) := by
  simp only [lexRun, takeWhile_run hrun hp, dropWhile_run hrun hp, any_of_stops hstop,
    Bool.false_eq_true, if_false]

theorem isDigit_of_continues {c : Char} (h : continuesNumber c = false) : c.isDigit = false := by
  cases hd : c.isDigit with
  | false => rfl
  | true => simp [continuesNumber, continuesWord, hd] at h

theorem lexDigits_toDigits (n : Nat) (h : Stops continuesNumber rest) :
    lexDigits (Nat.toDigits 10 n ++ rest) = some (n, rest) := by
  have hdigit : ∀ c ∈ Nat.toDigits 10 n, c.isDigit = true := fun c hc => isDigit_of_mem_toDigits hc
  have hstop : Stops Char.isDigit rest := fun c hc => isDigit_of_continues (h c hc)
  simp only [lexDigits, lexRun_append hdigit hstop h, Option.bind_eq_bind, Option.bind_some,
    readDigits?_toDigits]
  rfl

theorem startsWord_of_isDigit {c : Char} (h : c.isDigit = true) : startsWord c = false := by
  rw [Char.isDigit_iff_toNat] at h
  have hlow : '0'.toNat = 48 := rfl
  have hhigh : '9'.toNat = 57 := rfl
  cases hw : startsWord c with
  | false => rfl
  | true =>
    simp [startsWord, Char.isAlpha, Char.isUpper, Char.isLower, UInt32.le_iff_toNat_le,
      or_assoc] at hw
    rcases hw with hw | hw | rfl | hw
    · omega
    · omega
    · exact absurd h.2 (by decide)
    · omega

theorem word_cases {w : String} (hw : (Token.word w).IsWritable) :
    ∃ c cs, w.toList = c :: cs ∧ startsWord c = true := by
  cases hchars : w.toList with
  | nil => simp [Token.IsWritable, hchars] at hw
  | cons c cs =>
    have hstart := hw.1
    rw [hchars, List.head?_cons, Option.any_some] at hstart
    exact ⟨c, cs, rfl, hstart⟩

theorem lexToken?_word {w : String} (hw : (Token.word w).IsWritable)
    (h : Stops (Token.word w).goesOn rest) :
    lexToken? ((Token.word w).chars ++ rest) = some (.word w, rest) := by
  obtain ⟨c, cs, hcs, hstart⟩ := word_cases hw
  have hall := hw.2
  have hdigit : c.isDigit = false := by
    cases hd : c.isDigit with
    | false => rfl
    | true => exact absurd hstart (by rw [startsWord_of_isDigit hd]; decide)
  have hword : Stops continuesWord rest := fun d hd => (Bool.or_eq_false_iff.1 (h d hd)).1
  have hprefix : Stops startsPrefixed rest := fun d hd => (Bool.or_eq_false_iff.1 (h d hd)).2
  have hrun := lexRun_append (fun d hd => List.all_eq_true.1 hall d hd) hword hprefix
  have hword : String.ofList (c :: cs) = w := by rw [← hcs, String.ofList_toList]
  rw [hcs, List.cons_append] at hrun
  rw [Token.chars, hcs, List.cons_append]
  have hplain : c ≠ ' ' ∧ c ≠ '"' ∧ c ≠ '\x27' ∧ c ≠ '$' := by
    refine ⟨?_, ?_, ?_, ?_⟩ <;> rintro rfl <;> exact absurd hstart (by decide)
  simp only [lexToken?, hplain, if_false, hdigit, Bool.false_eq_true, hstart, if_true, hrun,
    Option.map_some, hword]

/-- An operator starts no other token. -/
theorem isOperatorChar_cases {c : Char} (h : isOperatorChar c = true) :
    c ≠ ' ' ∧ c ≠ '"' ∧ c ≠ '\x27' ∧ c ≠ '$' ∧ c.isDigit = false ∧ startsWord c = false := by
  have hmem : c ∈ operatorChars := List.contains_iff_mem.1 h
  simp only [operatorChars, List.mem_cons, List.not_mem_nil, or_false] at hmem
  rcases hmem with rfl | rfl | rfl | rfl | rfl | rfl | rfl | rfl | rfl | rfl | rfl | rfl | rfl |
    rfl | rfl | rfl <;> decide

theorem lexToken?_operator {m : String} (hne : m.toList ≠ [])
    (hop : isOperator m.toList = true) (h : Stops isOperatorChar rest) :
    lexToken? (m.toList ++ rest) = some (.mark m, rest) := by
  obtain ⟨c, cs, hcs⟩ := List.exists_cons_of_ne_nil hne
  have hall : ∀ d ∈ m.toList, isOperatorChar d = true := by
    simp only [isOperator, Bool.and_eq_true] at hop
    exact fun d hd => List.all_eq_true.1 hop.1.1.1 d hd
  have hc : isOperatorChar c = true := hall c (by rw [hcs]; exact List.mem_cons_self ..)
  have hrun := lexRun_append hall h (stops_never rest)
  have hread : lexOperator (m.toList ++ rest) = some (.mark m, rest) := by
    simp only [lexOperator, hrun, Option.bind_eq_bind, Option.bind_some, hop, if_true,
      String.ofList_toList]
  have hkind := isOperatorChar_cases hc
  rw [hcs, List.cons_append] at hread ⊢
  simp only [lexToken?, hkind, if_false, Bool.false_eq_true, hc, if_true, hread]

theorem goesOn_operator {m : String} (hne : m.toList ≠ []) (hop : isOperator m.toList = true) :
    (Token.mark m).goesOn = isOperatorChar := by
  have hdot : m ≠ "." := by
    rintro rfl
    exact absurd hop (by decide)
  obtain ⟨c, cs, hcs⟩ := List.exists_cons_of_ne_nil hne
  have hc : isOperatorChar c = true := by
    rw [hcs] at hop
    simp only [isOperator, List.all_cons, Bool.and_eq_true] at hop
    exact hop.1.1.1.1
  simp only [Token.goesOn, if_neg hdot, hcs, List.head?_cons, Option.any_some, hc, if_true]

theorem head?_ne_of_stops {c : Char} (h : Stops (fun d => d == c) rest) :
    rest.head? ≠ some c := by
  intro hhead
  have hc : (c == c) = false := h c hhead
  rw [beq_self_eq_true] at hc
  cases hc

/-- A token is cut off where its characters end. -/
theorem lexToken?_chars {t : Token} (ht : t.IsWritable) (h : Stops t.goesOn rest) :
    lexToken? (t.chars ++ rest) = some (t, rest) := by
  cases t with
  | word w => exact lexToken?_word ht h
  | quoted name =>
    have hread := unclosed_doubled '"' name.toList (head?_ne_of_stops h)
    simp [lexToken?, Token.chars, enclosed, hread]
  | string s =>
    have hread := unclosed_doubled '\x27' s.toList (head?_ne_of_stops h)
    simp [lexToken?, Token.chars, enclosed, hread]
  | param n =>
    have hread := lexDigits_toDigits n h
    simp [lexToken?, Token.chars, hread]
  | number n =>
    obtain ⟨c, cs, hcs⟩ := List.exists_cons_of_ne_nil (Nat.toDigits_ne_nil (n := n) (b := 10))
    have hdigit : c.isDigit = true := isDigit_of_mem_toDigits (hcs ▸ List.mem_cons_self ..)
    have hplain : c ≠ ' ' ∧ c ≠ '"' ∧ c ≠ '\x27' ∧ c ≠ '$' := by
      refine ⟨?_, ?_, ?_, ?_⟩ <;> rintro rfl <;> exact absurd hdigit (by decide)
    have hread := lexDigits_toDigits n h
    rw [Token.chars]
    rw [hcs, List.cons_append] at hread ⊢
    simp only [lexToken?, hplain, if_false, hdigit, if_true, hread, Option.map_some]
  | mark m =>
    rw [Token.chars]
    rcases ht with hmem | ⟨hne, hop⟩
    · simp only [List.mem_cons, List.not_mem_nil, or_false] at hmem
      rcases hmem with rfl | rfl | rfl | rfl | rfl
      · rfl
      · rfl
      · rfl
      · rfl
      · have hstop : rest.head?.any continuesPoint = false := any_of_stops h
        have hread : lexToken? ('.' :: rest) = lexPunctuation ('.' :: rest) := rfl
        have hdot : ".".toList ++ rest = '.' :: rest := rfl
        rw [hdot, hread, lexPunctuation, hstop]
        rfl
    · rw [goesOn_operator hne hop] at h
      exact lexToken?_operator hne hop h
  | blank => rfl

end Token

namespace Token

/-- The second token can stand right behind the first. -/
def apart (t u : Token) : Bool := !u.chars.head?.any t.goesOn

theorem chars_ne_nil {t : Token} (h : t.IsWritable) : t.chars ≠ [] := by
  cases t with
  | word s =>
    obtain ⟨c, cs, hcs, -⟩ := word_cases h
    rw [chars, hcs]
    exact List.cons_ne_nil c cs
  | mark s =>
    rcases h with h | h
    · simp only [List.mem_cons, List.not_mem_nil, or_false] at h
      rcases h with rfl | rfl | rfl | rfl | rfl <;> decide
    · exact h.1
  | number n => exact Nat.toDigits_ne_nil
  | _ => simp [chars, enclosed]

theorem stops_of_apart {t u : Token} (hu : u.IsWritable) (h : apart t u = true)
    (rest : List Char) : Stops t.goesOn (u.chars ++ rest) := by
  obtain ⟨c, cs, hcs⟩ := List.exists_cons_of_ne_nil (chars_ne_nil hu)
  rw [hcs, List.cons_append, stops_cons]
  simpa [apart, hcs] using h

end Token

/-- Every token is written so that it can be told, and can stand right behind the one before. -/
structure Spaced (ts : List Token) : Prop where
  writable : ∀ t ∈ ts, t.IsWritable
  apart : ts.IsChain fun t u => t.apart u = true

instance (ts : List Token) : Decidable (Spaced ts) :=
  decidable_of_iff ((∀ t ∈ ts, t.IsWritable) ∧ ts.IsChain fun t u => t.apart u = true)
    ⟨fun h => ⟨h.1, h.2⟩, fun h => ⟨h.writable, h.apart⟩⟩

section Text

variable {ts : List Token}

theorem stops_after {t : Token} (h : Spaced (t :: ts)) :
    Stops t.goesOn (ts.flatMap Token.chars) := by
  cases ts with
  | nil => exact stops_nil _
  | cons u us =>
    rw [List.flatMap_cons]
    have hu : u.IsWritable := h.writable u (List.mem_cons_of_mem _ (List.mem_cons_self ..))
    exact Token.stops_of_apart hu (List.isChain_cons_cons.1 h.apart).1 _

theorem Spaced.tail {t : Token} (h : Spaced (t :: ts)) : Spaced ts where
  writable u hu := h.writable u (List.mem_cons_of_mem _ hu)
  apart := h.apart.of_cons

theorem lexFrom_chars (h : Spaced ts) {fuel : Nat}
    (hfuel : (ts.flatMap Token.chars).length ≤ fuel) :
    lexFrom fuel (ts.flatMap Token.chars) = some ts := by
  induction ts generalizing fuel with
  | nil => cases fuel <;> rfl
  | cons t ts ih =>
    have ht : t.IsWritable := h.writable t (List.mem_cons_self ..)
    have hfirst := lexToken?_chars ht (stops_after h)
    obtain ⟨c, cs, hcs⟩ := List.exists_cons_of_ne_nil (Token.chars_ne_nil ht)
    rw [List.flatMap_cons, List.length_append, hcs, List.length_cons] at hfuel
    obtain ⟨fuel, rfl⟩ : ∃ n, fuel = n + 1 := ⟨fuel - 1, by omega⟩
    have hrest := ih h.tail (show (ts.flatMap Token.chars).length ≤ fuel by omega)
    rw [List.flatMap_cons]
    rw [hcs, List.cons_append] at hfirst ⊢
    simp only [lexFrom, hfirst, hrest, Option.bind_eq_bind, Option.bind_some]
    rfl

/-- Tokens that can stand next to each other are what their text is cut into. -/
theorem lex_textOf (h : Spaced ts) : lex (textOf ts) = some ts := by
  rw [lex, textOf, String.toList_ofList]
  exact lexFrom_chars h (Nat.le_refl _)

end Text

end Sql
end Sieve
