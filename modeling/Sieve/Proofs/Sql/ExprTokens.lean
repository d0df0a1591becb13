import Sieve.Proofs.Sql.Lexer
import Sieve.Sql.Expr

/-!
# Sieve.Proofs.Sql.ExprTokens

The tokens of an expression can stand next to each other, whatever its names and texts are, so that
its text is cut into just them: `lex_text`.
-/

namespace Sieve
namespace Sql

namespace Token

/-- An expression can start with the token. -/
def opens : Token → Bool
  | .mark s => s == "("
  | .blank => false
  | _ => true

/-- An expression can end with the token. -/
def closes : Token → Bool
  | .mark s => s == ")"
  | .blank => false
  | _ => true

/-- The token can stand between expressions. -/
def joins (t : Token) : Bool := [.blank, .mark "->", .mark "->>", .mark "::", .mark ","].contains t

theorem joins_cases {t : Token} (h : t.joins = true) :
    t = .blank ∨ t = .mark "->" ∨ t = .mark "->>" ∨ t = .mark "::" ∨ t = .mark "," := by
  simpa [joins] using h

theorem apart_of_closes {t u : Token} (ht : t.closes = true) (hu : u.joins = true) :
    apart t u = true := by
  cases t with
  | mark s =>
    simp only [closes, beq_iff_eq] at ht
    rcases joins_cases hu with rfl | rfl | rfl | rfl | rfl <;> rw [ht] <;> decide
  | blank => cases ht
  | _ => rcases joins_cases hu with rfl | rfl | rfl | rfl | rfl <;> rfl

/-- No expression starts with what an operator goes on with. -/
theorem isOperatorChar_of_opens {t : Token} (hw : t.IsWritable) (h : t.opens = true) :
    t.chars.head?.any isOperatorChar = false := by
  cases t with
  | word s =>
    obtain ⟨c, cs, hcs, hc⟩ := word_cases hw
    rw [chars, hcs, List.head?_cons, Option.any_some]
    cases hop : isOperatorChar c with
    | false => rfl
    | true =>
      rw [(isOperatorChar_cases hop).2.2.2.2.2] at hc
      cases hc
  | number n =>
    obtain ⟨c, cs, hcs⟩ := List.exists_cons_of_ne_nil (Nat.toDigits_ne_nil (n := n) (b := 10))
    have hdigit : c.isDigit = true := isDigit_of_mem_toDigits (hcs ▸ List.mem_cons_self ..)
    rw [chars, hcs, List.head?_cons, Option.any_some]
    cases hop : isOperatorChar c with
    | false => rfl
    | true =>
      rw [(isOperatorChar_cases hop).2.2.2.2.1] at hdigit
      cases hdigit
  | mark s =>
    simp only [opens, beq_iff_eq] at h
    rw [h]
    decide
  | blank => cases h
  | _ => rfl

theorem apart_of_never {t : Token} (h : t.goesOn = fun _ => false) (u : Token) :
    apart t u = true := by
  rw [apart, h]
  cases u.chars.head? <;> rfl

theorem apart_of_operator {t u : Token} (ht : t.goesOn = isOperatorChar) (hw : u.IsWritable)
    (hu : u.opens = true) : apart t u = true := by
  rw [apart, ht, isOperatorChar_of_opens hw hu]
  rfl

theorem apart_of_joins {t u : Token} (ht : t.joins = true) (hw : u.IsWritable)
    (hu : u.opens = true) : apart t u = true := by
  rcases joins_cases ht with rfl | rfl | rfl | rfl | rfl
  · exact apart_of_never rfl u
  · exact apart_of_operator rfl hw hu
  · exact apart_of_operator rfl hw hu
  · exact apart_of_never rfl u
  · exact apart_of_never rfl u

/-- Before a parenthesis. -/
theorem apart_paren {t : Token} (ht : t.closes = true) (m : String) (hm : m = "(" ∨ m = ")") :
    apart t (.mark m) = true := by
  cases t with
  | mark s =>
    simp only [closes, beq_iff_eq] at ht
    rcases hm with rfl | rfl <;> rw [ht] <;> decide
  | blank => cases ht
  | _ => rcases hm with rfl | rfl <;> rfl

theorem isWritable_named (name : String) : (named name).IsWritable := by
  unfold named
  cases hbare : isBare name with
  | false => exact trivial
  | true =>
    unfold isBare at hbare
    cases hchars : name.toList with
    | nil => simp [hchars] at hbare
    | cons c cs =>
      simp only [hchars, Bool.and_eq_true] at hbare
      have hall : cs.all continuesWord = true := by
        refine List.all_eq_true.2 fun d hd => ?_
        have hd := List.all_eq_true.1 hbare.2 d hd
        simp only [continuesBare, Bool.or_eq_true] at hd
        rcases hd with (hd | hd) | hd <;>
          simp [continuesWord, startsWord, Char.isAlpha, hd]
      have hstart : startsWord c = true := by
        have hc := hbare.1
        simp only [startsBare, Bool.or_eq_true] at hc
        rcases hc with hc | hc <;> simp [startsWord, Char.isAlpha, hc]
      refine ⟨?_, ?_⟩
      · simp [hchars, hstart]
      · simp [hchars, hall, continuesWord, hstart]

theorem opens_named (name : String) : (named name).opens = true := by
  unfold named
  split <;> rfl

theorem closes_named (name : String) : (named name).closes = true := by
  unfold named
  split <;> rfl

end Token

/-- The tokens can stand next to each other, and as a whole next to tokens that join. -/
structure Phrase (ts : List Token) : Prop where
  spaced : Spaced ts
  first : ts.head?.any Token.opens = true
  last : ts.getLast?.any Token.closes = true

/-- Tokens that can stand between two phrases. -/
structure Joint (ts : List Token) : Prop where
  spaced : Spaced ts
  first : ts.head?.any Token.joins = true
  last : ts.getLast?.any Token.joins = true

instance (ts : List Token) : Decidable (Phrase ts) :=
  decidable_of_iff
    (Spaced ts ∧ ts.head?.any Token.opens = true ∧ ts.getLast?.any Token.closes = true)
    ⟨fun h => ⟨h.1, h.2.1, h.2.2⟩, fun h => ⟨h.spaced, h.first, h.last⟩⟩

instance (ts : List Token) : Decidable (Joint ts) :=
  decidable_of_iff
    (Spaced ts ∧ ts.head?.any Token.joins = true ∧ ts.getLast?.any Token.joins = true)
    ⟨fun h => ⟨h.1, h.2.1, h.2.2⟩, fun h => ⟨h.spaced, h.first, h.last⟩⟩

section Phrase

variable {a b g : List Token}

theorem Spaced.append (ha : Spaced a) (hb : Spaced b)
    (h : ∀ t ∈ a.getLast?, ∀ u ∈ b.head?, t.apart u = true) : Spaced (a ++ b) where
  writable t ht := (List.mem_append.1 ht).elim (ha.writable t) (hb.writable t)
  apart := List.isChain_append.2 ⟨ha.apart, hb.apart, h⟩

theorem any_of_mem {p : Token → Bool} {o : Option Token} (h : o.any p = true) :
    ∀ t ∈ o, p t = true := by
  intro t ht
  rw [Option.mem_def.1 ht] at h
  exact h

theorem head?_append_of_any {p : Token → Bool} (h : a.head?.any p = true) :
    (a ++ b).head? = a.head? := by
  cases a with
  | nil => cases h
  | cons t a => rfl

theorem getLast?_append_of_any {p : Token → Bool} (h : b.getLast?.any p = true) :
    (a ++ b).getLast? = b.getLast? := by
  cases hb : b.getLast? with
  | none => rw [hb] at h; cases h
  | some t => rw [List.getLast?_append, hb, Option.some_or]

/-- Two phrases with a joint between them. -/
theorem Phrase.joined (ha : Phrase a) (hg : Joint g) (hb : Phrase b) : Phrase (a ++ g ++ b) := by
  have hag : Spaced (a ++ g) := ha.spaced.append hg.spaced fun t ht u hu =>
    Token.apart_of_closes (any_of_mem ha.last t ht) (any_of_mem hg.first u hu)
  refine ⟨hag.append hb.spaced fun t ht u hu => ?_, ?_, ?_⟩
  · rw [getLast?_append_of_any hg.last] at ht
    have hw : u.IsWritable := hb.spaced.writable u (List.mem_of_mem_head? hu)
    exact Token.apart_of_joins (any_of_mem hg.last t ht) hw (any_of_mem hb.first u hu)
  · rw [List.append_assoc, head?_append_of_any ha.first]
    exact ha.first
  · rw [getLast?_append_of_any hb.last]
    exact hb.last

/-- What a phrase goes on with: a joint and another phrase. -/
theorem Phrase.suffix (ha : Phrase a) (hg : Joint g) (hb : Phrase b) :
    Phrase (a ++ (g ++ b)) := by
  rw [← List.append_assoc]
  exact ha.joined hg hb

theorem Phrase.single {t : Token} (hw : t.IsWritable) (hopens : t.opens = true)
    (hcloses : t.closes = true) : Phrase [t] :=
  ⟨⟨fun u hu => by rw [List.mem_singleton.1 hu]; exact hw, .singleton t⟩, hopens, hcloses⟩

theorem spaced_inParens (hs : Spaced a) (hlast : ∀ t ∈ a.getLast?, t.closes = true) :
    Spaced (inParens a) := by
  have hopen : Spaced [.mark "("] := by decide
  have hclose : Spaced [.mark ")"] := by decide
  have hin : Spaced (a ++ [.mark ")"]) := hs.append hclose fun t ht u hu => by
    rw [List.head?_cons, Option.mem_some_iff] at hu
    rw [← hu]
    exact Token.apart_paren (hlast t ht) ")" (.inr rfl)
  exact hopen.append hin fun t ht u _ => by
    rw [List.getLast?_singleton, Option.mem_some_iff] at ht
    rw [← ht]
    exact Token.apart_of_never rfl u

theorem getLast?_inParens (a : List Token) : (inParens a).getLast? = some (.mark ")") := by
  rw [inParens, List.getLast?_append, List.getLast?_singleton, Option.some_or]

theorem Phrase.parens (ha : Phrase a) : Phrase (inParens a) := by
  refine ⟨spaced_inParens ha.spaced (any_of_mem ha.last), rfl, ?_⟩
  rw [getLast?_inParens]
  rfl

/-- A phrase right before parentheses. -/
theorem Phrase.call (ha : Phrase a) (hb : Phrase (inParens b)) : Phrase (a ++ inParens b) := by
  refine ⟨ha.spaced.append hb.spaced fun t ht u hu => ?_, ?_, ?_⟩
  · rw [inParens, List.cons_append, List.head?_cons, Option.mem_some_iff] at hu
    rw [← hu]
    exact Token.apart_paren (any_of_mem ha.last t ht) "(" (.inl rfl)
  · rw [head?_append_of_any ha.first]
    exact ha.first
  · rw [getLast?_append_of_any hb.last]
    exact hb.last

theorem Phrase.listed {items : List (List Token)} (hne : items ≠ [])
    (h : ∀ ts ∈ items, Phrase ts) : Phrase (listed items) := by
  have hcomma : Joint [.mark ",", .blank] := by decide
  induction items with
  | nil => exact absurd rfl hne
  | cons ts items ih =>
    have hts := h ts (List.mem_cons_self ..)
    cases items with
    | nil => exact hts
    | cons us items =>
      have hrest := ih (List.cons_ne_nil us items) fun vs hvs => h vs (List.mem_cons_of_mem _ hvs)
      exact hts.suffix hcomma hrest

end Phrase

theorem phrase_type (type : SqlType) : Phrase [.word type.name] := by
  cases type <;> decide

theorem phrase_param (p : Param) : Phrase p.tokens := by
  have hindex : Phrase [.param p.index] := Phrase.single trivial rfl rfl
  have hcast : Joint [.mark "::"] := by decide
  unfold Param.tokens
  cases p.type with
  | none => exact hindex
  | some type => exact hindex.joined hcast (phrase_type type)

theorem phrase_params (items : List Param) :
    Phrase (inParens (listed (items.map Param.tokens))) := by
  cases items with
  | nil => decide
  | cons p items =>
    refine Phrase.parens (Phrase.listed (by simp) fun ts hts => ?_)
    obtain ⟨q, -, rfl⟩ := List.mem_map.1 hts
    exact phrase_param q

theorem phrase_negatable (negated : Bool) {word : String} (h : Phrase [.word word]) :
    Phrase (negatable negated word) := by
  have hnot : Phrase [.word "NOT"] := by decide
  have hblank : Joint [.blank] := by decide
  cases negated with
  | false => exact h
  | true => exact hnot.joined hblank h

theorem joint_comparison (op : Comparison) :
    Joint [.blank, .mark (comparisonMark op), .blank] := by
  cases op <;> decide

theorem joint_conjunction (c : Conjunction) : Joint [.blank, .word c.token, .blank] := by
  cases c <;> decide

/-- The tokens of an expression are a phrase, whatever its names and texts. -/
theorem phrase_tokens (e : Expr) : Phrase e.tokens := by
  have hblank : Joint [.blank] := by decide
  have hcast : Joint [.mark "::"] := by decide
  have hcase : Phrase (words ["CASE", "WHEN"]) := by decide
  have hthen : Joint [.blank, .word "THEN", .blank] := by decide
  have hend : Phrase [.word "END"] := by decide
  have hkey : ∀ key, Phrase [.string key] := fun key => Phrase.single trivial rfl rfl
  induction e with
  | truth b => cases b <;> decide
  | column name =>
    exact Phrase.single (Token.isWritable_named name) (Token.opens_named name)
      (Token.closes_named name)
  | element => decide
  | param p => exact phrase_param p
  | string s => exact hkey s
  | member doc key ih =>
    have harrow : Joint [.mark "->"] := by decide
    exact ih.suffix harrow (hkey key)
  | memberText doc key ih =>
    have harrow : Joint [.mark "->>"] := by decide
    exact ih.suffix harrow (hkey key)
  | wholeText doc ih =>
    have hwhole : Joint [.blank, .mark "#>>", .blank] := by decide
    exact ih.suffix hwhole (hkey "\x7b\x7d")
  | kind doc ih =>
    have hname : Phrase [.word "jsonb_typeof"] := by decide
    exact hname.call ih.parens
  | cast e type ih =>
    exact ih.suffix hcast (phrase_type type)
  | bytewise e ih =>
    have hcollate : Phrase [.word "COLLATE", .blank, .quoted "C"] := by decide
    exact ih.suffix hblank hcollate
  | compare op a b iha ihb => exact iha.joined (joint_comparison op) ihb
  | isNull negated e ih =>
    have his : Joint [.blank, .word "IS", .blank] := by decide
    have hnull : Phrase [.word "NULL"] := by decide
    exact ih.suffix his (phrase_negatable negated hnull)
  | distinct a b iha ihb =>
    have hdistinct : Joint ([.blank] ++ words ["IS", "DISTINCT", "FROM"] ++ [.blank]) := by decide
    have h := iha.joined hdistinct ihb
    simpa [Expr.tokens] using h
  | like negated e pattern ihe ihp =>
    have hlike : Phrase [.word "LIKE"] := by decide
    have hescape : Phrase [.word "ESCAPE", .blank, .string "\\"] := by decide
    have h := ((ihe.joined hblank (phrase_negatable negated hlike)).joined hblank ihp).joined
      hblank hescape
    simpa [Expr.tokens] using h
  | among negated e items ih =>
    have hin : Phrase [.word "IN"] := by decide
    have h := (ih.joined hblank (phrase_negatable negated hin)).joined hblank (phrase_params items)
    simpa [Expr.tokens] using h
  | includes a b iha ihb =>
    have hmark : Joint [.blank, .mark "@>", .blank] := by decide
    exact iha.joined hmark ihb
  | junction c a b iha ihb => exact iha.joined (joint_conjunction c) ihb
  | choose condition yes no ihc ihy ihn =>
    have helse : Joint [.blank, .word "ELSE", .blank] := by decide
    have h := (((hcase.joined hblank ihc).joined hthen ihy).joined helse ihn).joined hblank hend
    simpa [Expr.tokens] using h
  | whenever condition yes ihc ihy =>
    have h := ((hcase.joined hblank ihc).joined hthen ihy).joined hblank hend
    simpa [Expr.tokens] using h
  | someElement array condition iha ihc =>
    have hexists : Phrase [.word "EXISTS"] := by decide
    have hfrom : Phrase [.word "SELECT", .blank, .number 1, .blank, .word "FROM"] := by decide
    have helements : Phrase [.word "jsonb_array_elements"] := by decide
    have hwhere : Joint [.blank, .word "AS", .blank, .word "elem", .mark "(", .word "value",
        .mark ")", .blank, .word "WHERE", .blank] := by decide
    have hinner := (hfrom.joined hblank (helements.call iha.parens)).joined hwhere ihc
    have h := hexists.joined hblank hinner.parens
    simpa [Expr.tokens] using h
  | paren e ih => exact ih.parens

theorem lex_text (e : Expr) : lex e.text = some e.tokens := lex_textOf (phrase_tokens e).spaced

end Sql
end Sieve
