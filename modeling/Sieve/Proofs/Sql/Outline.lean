import Sieve.Proofs.Sql.Grouping
import Sieve.Sql.Compile

/-!
# Sieve.Proofs.Sql.Outline

What an expression looks like from outside its parentheses. Parentheses match in every expression
(`balanced_tokens`), so that its outline is what its text has outside of them (`outer_tokens`). The
outline of a compiled leaf tells it from a compound predicate and from anything in parentheses:
`sealed_leafTest`.
-/

namespace Sieve
namespace Sql

/-- Tokens without the blanks between them. -/
def unspaced (ts : List Token) : List Token := ts.filter fun t => t != .blank

section Unspaced

variable (ts us : List Token)

@[simp] theorem unspaced_nil : unspaced [] = [] := rfl

@[simp] theorem unspaced_append : unspaced (ts ++ us) = unspaced ts ++ unspaced us :=
  List.filter_append ..

@[simp] theorem unspaced_blank : unspaced (.blank :: ts) = unspaced ts := rfl

theorem unspaced_cons {t : Token} (h : t ≠ .blank) : unspaced (t :: ts) = t :: unspaced ts :=
  List.filter_cons_of_pos (by simpa using h)

@[simp] theorem unspaced_word (s : String) : unspaced (.word s :: ts) = .word s :: unspaced ts :=
  unspaced_cons ts (by simp)

@[simp] theorem unspaced_quoted (s : String) :
    unspaced (.quoted s :: ts) = .quoted s :: unspaced ts :=
  unspaced_cons ts (by simp)

@[simp] theorem unspaced_string (s : String) :
    unspaced (.string s :: ts) = .string s :: unspaced ts :=
  unspaced_cons ts (by simp)

@[simp] theorem unspaced_param (k : Nat) : unspaced (.param k :: ts) = .param k :: unspaced ts :=
  unspaced_cons ts (by simp)

@[simp] theorem unspaced_mark (s : String) : unspaced (.mark s :: ts) = .mark s :: unspaced ts :=
  unspaced_cons ts (by simp)

@[simp] theorem unspaced_named (name : String) : unspaced [.named name] = [.named name] := by
  unfold Token.named
  split <;> rfl

@[simp] theorem unspaced_inParens : unspaced (inParens ts) = inParens (unspaced ts) := by
  simp [inParens]

end Unspaced

section Balanced

variable {ts : List Token}

theorem balanced_of_plain (h : ∀ t ∈ ts, t ≠ openParen ∧ t ≠ closeParen) : Balanced ts := by
  induction ts with
  | nil => exact .nil
  | cons t ts ih =>
    obtain ⟨hopen, hclose⟩ := h t (List.mem_cons_self ..)
    exact (ih fun u hu => h u (List.mem_cons_of_mem _ hu)).cons hopen hclose

theorem Balanced.unspaced (h : Balanced ts) : Balanced (unspaced ts) := by
  induction h with
  | nil => exact .nil
  | @token t hopen hclose =>
    by_cases ht : t = .blank
    · rw [ht]
      exact .nil
    · rw [unspaced_cons _ ht]
      exact .token hopen hclose
  | append ha hb iha ihb =>
    rw [unspaced_append]
    exact .append iha ihb
  | parens ha ih =>
    rw [unspaced_inParens]
    exact .parens ih

theorem Balanced.plainly (h : Balanced ts) {us : List Token}
    (hplain : ∀ t ∈ us, t ≠ openParen ∧ t ≠ closeParen) : Balanced (ts ++ us) :=
  .append h (balanced_of_plain hplain)

theorem balanced_param (p : Param) : Balanced p.tokens := by
  refine balanced_of_plain ?_
  unfold Param.tokens
  cases p.type <;> simp [openParen, closeParen]

theorem balanced_listed {items : List (List Token)} (h : ∀ ts ∈ items, Balanced ts) :
    Balanced (listed items) := by
  induction items with
  | nil => exact .nil
  | cons ts items ih =>
    have hts := h ts (List.mem_cons_self ..)
    cases items with
    | nil => exact hts
    | cons us items =>
      have hrest := ih fun vs hvs => h vs (List.mem_cons_of_mem _ hvs)
      have hcomma : Balanced [.mark ",", .blank] := balanced_of_plain (by decide)
      exact hts.append (hcomma.append hrest)

theorem balanced_negatable (negated : Bool) (word : String) :
    Balanced (negatable negated word) := by
  refine balanced_of_plain ?_
  cases negated <;> simp [negatable, words, openParen, closeParen]

/-- The search inside a test of the elements of an array. -/
theorem balanced_search {array condition : List Token} (harray : Balanced array)
    (hcondition : Balanced condition) :
    Balanced ([.word "SELECT", .blank, .number 1, .blank, .word "FROM", .blank,
      .word "jsonb_array_elements"] ++ inParens array ++ [.blank, .word "AS", .blank, .word "elem",
      .mark "(", .word "value", .mark ")", .blank, .word "WHERE", .blank] ++ condition) := by
  have hfrom : Balanced [.word "SELECT", .blank, .number 1, .blank, .word "FROM", .blank,
      .word "jsonb_array_elements"] := balanced_of_plain (by decide)
  have has : Balanced [.blank, .word "AS", .blank, .word "elem"] := balanced_of_plain (by decide)
  have hvalue : Balanced [.word "value"] := balanced_of_plain (by decide)
  have hwhere : Balanced [.blank, .word "WHERE", .blank] := balanced_of_plain (by decide)
  have h := hfrom.append (harray.parens.append (has.append (hvalue.parens.append
    (hwhere.append hcondition))))
  simpa [inParens] using h

/-- Parentheses match in every expression, whatever its names and texts. -/
theorem balanced_tokens (e : Expr) : Balanced e.tokens := by
  have hword : ∀ s, Balanced [.word s] := fun s =>
    .token (by simp [openParen]) (by simp [closeParen])
  have hblank : Balanced [.blank] := .token (by decide) (by decide)
  have hcase : Balanced (words ["CASE", "WHEN"] ++ [.blank]) := balanced_of_plain (by decide)
  have hthen : Balanced [.blank, .word "THEN", .blank] := balanced_of_plain (by decide)
  have hend : Balanced [.blank, .word "END"] := balanced_of_plain (by decide)
  induction e with
  | truth b => exact hword _
  | column name =>
    refine balanced_of_plain ?_
    simp only [Expr.tokens, Token.named]
    split <;> simp [openParen, closeParen]
  | element => exact balanced_of_plain (by decide)
  | param p => exact balanced_param p
  | string s => exact .token (by simp [openParen]) (by simp [closeParen])
  | member doc key ih => exact ih.plainly (by simp [openParen, closeParen])
  | memberText doc key ih => exact ih.plainly (by simp [openParen, closeParen])
  | wholeText doc ih => exact ih.plainly (by simp [openParen, closeParen])
  | kind doc ih => exact (hword _).append ih.parens
  | cast e type ih => exact ih.plainly (by simp [openParen, closeParen])
  | bytewise e ih => exact ih.plainly (by simp [openParen, closeParen])
  | compare op a b iha ihb =>
    refine (iha.plainly ?_).append ihb
    cases op <;> decide
  | isNull negated e ih =>
    have his : Balanced [.blank, .word "IS", .blank] := balanced_of_plain (by decide)
    exact ih.append (his.append (balanced_negatable negated "NULL"))
  | distinct a b iha ihb =>
    have hdistinct : Balanced (.blank :: words ["IS", "DISTINCT", "FROM"] ++ [.blank]) :=
      balanced_of_plain (by decide)
    have h := iha.append (hdistinct.append ihb)
    simpa [Expr.tokens] using h
  | like negated e pattern ihe ihp =>
    have hescape : Balanced [.blank, .word "ESCAPE", .blank, .string "\\"] :=
      balanced_of_plain (by decide)
    have h := ihe.append (hblank.append ((balanced_negatable negated "LIKE").append
      (hblank.append (ihp.append hescape))))
    simpa [Expr.tokens] using h
  | among negated e items ih =>
    have hitems : Balanced (listed (items.map Param.tokens)) := by
      refine balanced_listed fun ts hts => ?_
      obtain ⟨p, -, rfl⟩ := List.mem_map.1 hts
      exact balanced_param p
    have h := ih.append (hblank.append ((balanced_negatable negated "IN").append
      (hblank.append hitems.parens)))
    simpa [Expr.tokens] using h
  | includes a b iha ihb => exact (iha.plainly (by decide)).append ihb
  | junction c a b iha ihb =>
    refine (iha.plainly ?_).append ihb
    cases c <;> decide
  | choose condition yes no ihc ihy ihn =>
    have helse : Balanced [.blank, .word "ELSE", .blank] := balanced_of_plain (by decide)
    have h := hcase.append (ihc.append (hthen.append (ihy.append (helse.append
      (ihn.append hend)))))
    simpa [Expr.tokens] using h
  | whenever condition yes ihc ihy =>
    have h := hcase.append (ihc.append (hthen.append (ihy.append hend)))
    simpa [Expr.tokens] using h
  | someElement array condition iha ihc =>
    have h := (hword "EXISTS").append (hblank.append (balanced_search iha ihc).parens)
    exact h
  | paren e ih => exact ih.parens

end Balanced

namespace Expr

/-- What stands outside parentheses, without blanks. -/
@[simp] def outline : Expr → List Token
  | .truth b => [.word (if b then "true" else "false")]
  | .column name => [.named name]
  | .element => [.word "elem", .mark ".", .word "value"]
  | .param p => p.tokens
  | .string s => [.string s]
  | .member doc key => doc.outline ++ [.mark "->", .string key]
  | .memberText doc key => doc.outline ++ [.mark "->>", .string key]
  | .wholeText doc => doc.outline ++ [.mark "#>>", .string "\x7b\x7d"]
  | .kind _ => [.word "jsonb_typeof"]
  | .cast e type => e.outline ++ [.mark "::", .word type.name]
  | .bytewise e => e.outline ++ [.word "COLLATE", .quoted "C"]
  | .compare op a b => a.outline ++ .mark (comparisonMark op) :: b.outline
  | .isNull negated e => e.outline ++ .word "IS" :: unspaced (negatable negated "NULL")
  | .distinct a b => a.outline ++ [.word "IS", .word "DISTINCT", .word "FROM"] ++ b.outline
  | .like negated e pattern =>
    e.outline ++ unspaced (negatable negated "LIKE") ++ pattern.outline ++
      [.word "ESCAPE", .string "\\"]
  | .among negated e _ => e.outline ++ unspaced (negatable negated "IN")
  | .includes a b => a.outline ++ .mark "@>" :: b.outline
  | .junction c a b => a.outline ++ .word c.token :: b.outline
  | .choose condition yes no =>
    [.word "CASE", .word "WHEN"] ++ condition.outline ++ .word "THEN" :: yes.outline ++
      .word "ELSE" :: no.outline ++ [.word "END"]
  | .whenever condition yes =>
    [.word "CASE", .word "WHEN"] ++ condition.outline ++ .word "THEN" :: yes.outline ++
      [.word "END"]
  | .someElement _ _ => [.word "EXISTS"]
  | .paren _ => []

end Expr

section Outer

variable {ts : List Token}

@[simp] theorem outer_nil : outer 0 [] = [] := rfl

theorem outer_cons {t : Token} (hopen : t ≠ openParen) (hclose : t ≠ closeParen)
    (ts : List Token) : outer 0 (t :: ts) = t :: outer 0 ts := by
  rw [outer, depthAfter_plain hopen hclose]
  simp [hopen]

@[simp] theorem outer_word (s : String) (ts : List Token) :
    outer 0 (.word s :: ts) = .word s :: outer 0 ts :=
  outer_cons (by simp [openParen]) (by simp [closeParen]) ts

@[simp] theorem outer_quoted (s : String) (ts : List Token) :
    outer 0 (.quoted s :: ts) = .quoted s :: outer 0 ts :=
  outer_cons (by simp [openParen]) (by simp [closeParen]) ts

@[simp] theorem outer_string (s : String) (ts : List Token) :
    outer 0 (.string s :: ts) = .string s :: outer 0 ts :=
  outer_cons (by simp [openParen]) (by simp [closeParen]) ts

@[simp] theorem outer_param (k : Nat) (ts : List Token) :
    outer 0 (.param k :: ts) = .param k :: outer 0 ts :=
  outer_cons (by simp [openParen]) (by simp [closeParen]) ts

theorem outer_mark {s : String} (h : s ≠ "(" ∧ s ≠ ")") (ts : List Token) :
    outer 0 (.mark s :: ts) = .mark s :: outer 0 ts :=
  outer_cons (by simp [openParen, h.1]) (by simp [closeParen, h.2]) ts

theorem outer_of_plain (h : ∀ t ∈ ts, t ≠ openParen ∧ t ≠ closeParen) : outer 0 ts = ts := by
  induction ts with
  | nil => rfl
  | cons t ts ih =>
    obtain ⟨hopen, hclose⟩ := h t (List.mem_cons_self ..)
    rw [outer_cons hopen hclose, ih fun u hu => h u (List.mem_cons_of_mem _ hu)]

theorem outer_tokens_append (e : Expr) (us : List Token) :
    outer 0 (unspaced e.tokens ++ us) = outer 0 (unspaced e.tokens) ++ outer 0 us :=
  outer_append (balanced_tokens e).unspaced us

theorem outer_inParens_tokens (e : Expr) (us : List Token) :
    outer 0 (inParens (unspaced e.tokens) ++ us) = outer 0 us :=
  outer_group (balanced_tokens e).unspaced us

theorem plain_negatable (negated : Bool) (word : String) :
    ∀ t ∈ unspaced (negatable negated word), t ≠ openParen ∧ t ≠ closeParen := by
  cases negated <;> simp [negatable, words, openParen, closeParen]

theorem outer_negatable (negated : Bool) (word : String) (us : List Token) :
    outer 0 (unspaced (negatable negated word) ++ us) =
      unspaced (negatable negated word) ++ outer 0 us := by
  rw [outer_append (balanced_of_plain (plain_negatable negated word)),
    outer_of_plain (plain_negatable negated word)]

/-- The outline of an expression is what its text has outside parentheses. -/
theorem outer_tokens (e : Expr) : outer 0 (unspaced e.tokens) = e.outline := by
  induction e with
  | column name =>
    have hplain : ∀ t ∈ [Token.named name], t ≠ openParen ∧ t ≠ closeParen := by
      simp only [List.mem_singleton, forall_eq, Token.named]
      split <;> simp [openParen, closeParen]
    rw [Expr.tokens, unspaced_named, outer_of_plain hplain]
    rfl
  | param p =>
    rw [Expr.tokens, Param.tokens, Expr.outline, Param.tokens]
    cases p.type with
    | none => rfl
    | some type => cases type <;> rfl
  | paren e ih =>
    have hparens := outer_inParens_tokens e []
    rw [List.append_nil] at hparens
    simp [Expr.tokens, hparens]
  | compare op a b iha ihb =>
    have hmark : comparisonMark op ≠ "(" ∧ comparisonMark op ≠ ")" := by cases op <;> decide
    simp [Expr.tokens, outer_tokens_append, outer_mark hmark, iha, ihb]
  | among negated e items ih =>
    have hitems : outer 0 (inParens (unspaced (listed (items.map Param.tokens)))) = [] := by
      refine outer_inParens (Balanced.unspaced (balanced_listed fun ts hts => ?_))
      obtain ⟨p, -, rfl⟩ := List.mem_map.1 hts
      exact balanced_param p
    simp [Expr.tokens, outer_tokens_append, outer_negatable, hitems, ih]
  | someElement array condition iha ihc =>
    have hsearch := outer_inParens
      (balanced_search (balanced_tokens array) (balanced_tokens condition)).unspaced
    rw [← unspaced_inParens] at hsearch
    rw [Expr.tokens, unspaced_word, unspaced_blank, outer_word, hsearch]
    rfl
  | isNull negated e ih =>
    have hnull := outer_of_plain (plain_negatable negated "NULL")
    simp [Expr.tokens, outer_tokens_append, hnull, ih]
  | kind doc ih =>
    have hparens := outer_inParens_tokens doc []
    rw [List.append_nil] at hparens
    simp [Expr.tokens, hparens]
  | _ => simp [Expr.tokens, outer_tokens_append, outer_mark, outer_negatable, words, *]

end Outer

/-! ## Leaves -/

/-- A word that joins the children of compound predicates. -/
def isJoiner (t : Token) : Bool := t == .word "AND" || t == .word "OR"

/-- A word that stands inside the parentheses of a leaf, and in no leaf outside of them. -/
def isKey (t : Token) : Bool := isJoiner t || t == .word "CASE"

/-- The text of the expression cannot be taken for that of a compound predicate, nor for such a
text, `true` or that of another leaf in parentheses. -/
inductive Sealed : Expr → Prop where
  | plain {e : Expr} (hne : e.outline ≠ []) (hkeys : e.outline.any isKey = false)
    (htrue : e.outline ≠ [.word "true"]) : Sealed e
  | group {e : Expr} (hkey : e.outline.any isKey = true)
    (hother : e.outline.all isJoiner = false) : Sealed (.paren e)

section Apart

variable {e f : Expr}

theorem Sealed.outline_any (h : Sealed e) : e.outline.any isKey = false := by
  cases h with
  | plain hne hkeys htrue => exact hkeys
  | group hkey hother => rfl

/-- What has a word of a compound predicate outside parentheses is not the sealed expression. -/
theorem Sealed.ne_keyed (h : Sealed e) (hkey : f.outline.any isKey = true) :
    unspaced f.tokens ≠ unspaced e.tokens := by
  intro heq
  have houtline : f.outline = e.outline := by rw [← outer_tokens, ← outer_tokens, heq]
  rw [houtline, h.outline_any] at hkey
  cases hkey

theorem Sealed.ne_true (h : Sealed e) : [.word "true"] ≠ unspaced e.tokens := by
  intro heq
  have houtline : e.outline = [.word "true"] := by
    rw [← outer_tokens, ← heq]
    rfl
  cases h with
  | plain hne hkeys htrue => exact htrue houtline
  | group hkey hother => cases houtline

/-- Nor is a condition in parentheses that has outside of its own ones no such word, or nothing
else. -/
theorem Sealed.ne_inParens (h : Sealed e)
    (hf : f.outline.any isKey = false ∨ f.outline.all isJoiner = true) :
    inParens (unspaced f.tokens) ≠ unspaced e.tokens := by
  intro heq
  cases h with
  | plain hne hkeys htrue =>
    have houtline : e.outline = [] := by
      rw [← outer_tokens, ← heq]
      exact outer_inParens (balanced_tokens f).unspaced
    exact hne houtline
  | @group e hkey hother =>
    have hinner : unspaced f.tokens = unspaced e.tokens := by
      simpa [Expr.tokens, inParens] using heq
    have houtline : f.outline = e.outline := by rw [← outer_tokens, ← outer_tokens, hinner]
    rw [houtline, hkey, hother] at hf
    rcases hf with hf | hf <;> cases hf

end Apart

section Sealed

variable {root : Expr} {path : List String}

theorem isKey_named (name : String) : isKey (Token.named name) = false := by
  unfold Token.named
  cases hbare : isBare name with
  | false => rfl
  | true =>
    have hand : name ≠ "AND" := fun h => by rw [h] at hbare; exact absurd hbare (by decide)
    have hor : name ≠ "OR" := fun h => by rw [h] at hbare; exact absurd hbare (by decide)
    have hcase : name ≠ "CASE" := fun h => by rw [h] at hbare; exact absurd hbare (by decide)
    simp [isKey, isJoiner, hand, hor, hcase]

theorem isKey_textAt : (textAt root path).outline.any isKey = false := by
  cases path <;> rfl

theorem isKey_numberAt : (numberAt root path).outline.any isKey = false := rfl

theorem isKey_documentAt (h : root.outline.any isKey = false) :
    (documentAt root path).outline.any isKey = false := by
  cases path with
  | nil => exact h
  | cons key path => rfl

theorem isKey_param (p : Param) : p.tokens.any isKey = false := by
  unfold Param.tokens
  cases p.type with
  | none => rfl
  | some type => cases type <;> rfl

theorem isKey_negatable (negated : Bool) {word : String} (h : isKey (.word word) = false) :
    (unspaced (negatable negated word)).any isKey = false := by
  have hnot : isKey (.word "NOT") = false := by decide
  cases negated <;> simp [negatable, words, h, hnot]

theorem isKey_mark (s : String) : isKey (.mark s) = false := rfl

theorem sealed_of_mem {e : Expr} {t : Token} (ht : t ∈ e.outline) (hother : t ≠ .word "true")
    (hkeys : e.outline.any isKey = false) : Sealed e := by
  refine .plain (List.ne_nil_of_mem ht) hkeys fun htrue => ?_
  rw [htrue, List.mem_singleton] at ht
  exact hother ht

theorem sealed_false : Sealed (.truth false) :=
  sealed_of_mem (List.mem_singleton_self _) (by decide) rfl

theorem sealed_compare (op : Comparison) {a b : Expr} (ha : a.outline.any isKey = false)
    (hb : b.outline.any isKey = false) : Sealed (.compare op a b) := by
  have hmem : Token.mark (comparisonMark op) ∈ (Expr.compare op a b).outline := by simp
  refine sealed_of_mem hmem (by simp) ?_
  simp only [Expr.outline, List.any_append, List.any_cons, ha, hb, isKey_mark, Bool.or_self]

theorem sealed_isNull (negated : Bool) {e : Expr} (h : e.outline.any isKey = false) :
    Sealed (.isNull negated e) := by
  have hnull := isKey_negatable negated (show isKey (.word "NULL") = false by decide)
  have his : isKey (.word "IS") = false := by decide
  have hmem : Token.word "IS" ∈ (Expr.isNull negated e).outline := by simp
  refine sealed_of_mem hmem (by simp) ?_
  simp only [Expr.outline, List.any_append, List.any_cons, h, his, hnull, Bool.or_self]

theorem sealed_like (negated : Bool) {e : Expr} (h : e.outline.any isKey = false) (p : Param) :
    Sealed (.like negated e (.param p)) := by
  have hlike := isKey_negatable negated (show isKey (.word "LIKE") = false by decide)
  have hescape : isKey (.word "ESCAPE") = false := by decide
  have hstring : isKey (.string "\\") = false := by decide
  have hmem : Token.word "ESCAPE" ∈ (Expr.like negated e (.param p)).outline := by simp
  refine sealed_of_mem hmem (by simp) ?_
  simp only [Expr.outline, List.any_append, List.any_cons, List.any_nil, h, hlike, isKey_param,
    hescape, hstring, Bool.or_self]

theorem sealed_among (negated : Bool) {e : Expr} (h : e.outline.any isKey = false)
    (items : List Param) : Sealed (.among negated e items) := by
  have hin := isKey_negatable negated (show isKey (.word "IN") = false by decide)
  have hmem : Token.word "IN" ∈ (Expr.among negated e items).outline := by
    cases negated <;> simp [negatable, words]
  refine sealed_of_mem hmem (by simp) ?_
  simp only [Expr.outline, List.any_append, h, hin, Bool.or_self]

theorem sealed_includes {e : Expr} (h : e.outline.any isKey = false) (p : Param) :
    Sealed (.includes e (.param p)) := by
  have hmem : Token.mark "@>" ∈ (Expr.includes e (.param p)).outline := by simp
  refine sealed_of_mem hmem (by simp) ?_
  simp only [Expr.outline, List.any_append, List.any_cons, h, isKey_mark, isKey_param, Bool.or_self]

/-- Two conditions in parentheses, one of which is not just words that join. -/
theorem sealed_junction (c : Conjunction) {a b : Expr} (h : a.outline.all isJoiner = false) :
    Sealed (.paren (.junction c a b)) := by
  have hjoiner : isKey (.word c.token) = true := by cases c <;> rfl
  refine .group ?_ ?_
  · simp [hjoiner]
  · simp only [Expr.outline, List.all_append, h, Bool.false_and]

theorem not_isJoiner_isNull (negated : Bool) (e : Expr) :
    (Expr.isNull negated e).outline.all isJoiner = false := by
  have his : isJoiner (.word "IS") = false := by decide
  simp only [Expr.outline, List.all_append, List.all_cons, his, Bool.false_and, Bool.and_false]

theorem not_isJoiner_compare (op : Comparison) (a b : Expr) :
    (Expr.compare op a b).outline.all isJoiner = false := by
  have hmark : isJoiner (.mark (comparisonMark op)) = false := rfl
  simp only [Expr.outline, List.all_append, List.all_cons, hmark, Bool.false_and, Bool.and_false]

theorem not_isJoiner_among (negated : Bool) (e : Expr) (items : List Param) :
    (Expr.among negated e items).outline.all isJoiner = false := by
  have hin : (unspaced (negatable negated "IN")).all isJoiner = false := by
    cases negated <;> decide
  simp only [Expr.outline, List.all_append, hin, Bool.and_false]

theorem sealed_columnTest (column : String) (c : Condition) (first : Nat) :
    Sealed (columnTest column c first) := by
  have hcolumn : (Expr.column column).outline.any isKey = false := by
    simp [isKey_named]
  have hcast : (Expr.cast (.column column) .text).outline.any isKey = false := by
    have htext : isKey (.word "text") = false := by decide
    simp [isKey_named, isKey_mark, SqlType.name, htext]
  cases c with
  | comparison op o => exact sealed_compare op hcolumn (isKey_param _)
  | membership negated items =>
    cases items with
    | nil =>
      cases negated with
      | false => exact sealed_false
      | true => exact sealed_isNull true hcolumn
    | cons o items =>
      cases negated with
      | false => exact sealed_among false hcolumn _
      | true => exact sealed_among true hcolumn _
  | textual test o =>
    cases test with
    | notLike => exact sealed_like true hcast _
    | _ => exact sealed_like false hcast _
  | nullness negated => exact sealed_isNull negated hcolumn

theorem sealed_documentComparison (op : Comparison) (numeric : Bool) (first : Nat) :
    Sealed (documentComparison root path op numeric first) := by
  cases numeric with
  | true =>
    cases op with
    | ne => exact sealed_junction .and (not_isJoiner_isNull true _)
    | _ => exact sealed_compare _ isKey_numberAt (isKey_param _)
  | false =>
    cases op with
    | eq => exact sealed_compare _ isKey_textAt (isKey_param _)
    | ne => exact sealed_compare _ isKey_textAt (isKey_param _)
    | _ => exact sealed_junction .and (not_isJoiner_compare .ne _ _)

theorem sealed_documentAmong (numbers texts : List Param) :
    Sealed (documentAmong root path numbers texts) := by
  cases numbers with
  | nil =>
    cases texts with
    | nil => exact sealed_false
    | cons t texts => exact sealed_among false isKey_textAt _
  | cons n numbers =>
    cases texts with
    | nil => exact sealed_among false isKey_numberAt _
    | cons t texts => exact sealed_junction .or (not_isJoiner_among false _ _)

theorem sealed_documentNotAmong (numbers texts : List Param) :
    Sealed (documentNotAmong root path numbers texts) := by
  have hpresent := not_isJoiner_isNull true (textAt root path)
  cases numbers with
  | nil =>
    cases texts with
    | nil => exact sealed_isNull true isKey_textAt
    | cons t texts => exact sealed_junction .and hpresent
  | cons n numbers =>
    cases texts with
    | nil => exact sealed_junction .and hpresent
    | cons t texts =>
      refine sealed_junction .and ?_
      rw [both, Expr.outline, List.all_append, hpresent, Bool.false_and]

theorem sealed_documentTest (h : root.outline.any isKey = false) (c : Condition) (first : Nat) :
    Sealed (documentTest root path c first) := by
  cases c with
  | comparison op o => exact sealed_documentComparison op _ first
  | membership negated items =>
    cases negated with
    | false => exact sealed_documentAmong _ _
    | true => exact sealed_documentNotAmong _ _
  | textual test o =>
    cases test with
    | contains => exact sealed_includes (isKey_documentAt h) ⟨first, some .jsonb⟩
    | notLike => exact sealed_like true isKey_textAt _
    | _ => exact sealed_like false isKey_textAt _
  | nullness negated =>
    cases negated with
    | false => exact sealed_junction .or (not_isJoiner_isNull false _)
    | true => exact sealed_compare .ne rfl rfl

theorem sealed_arrayTest (column : Expr) (c : Condition) (first : Nat) :
    Sealed (arrayTest column path c first) := by
  have hsome : ∀ array condition, Sealed (.someElement array condition) := fun array condition =>
    sealed_of_mem (List.mem_singleton_self _) (by decide) rfl
  cases c with
  | nullness negated =>
    cases negated with
    | false =>
      refine sealed_junction .or ?_
      have his : isJoiner (.word "IS") = false := by decide
      simp [his]
    | true => exact hsome _ _
  | _ => exact hsome _ _

/-- A compiled leaf is not taken for anything else. -/
theorem sealed_leafTest (catalog : Catalog) (l : Leaf) (first : Nat) :
    Sealed (leafTest catalog l first) := by
  have hcolumn : (Expr.column (targetOf catalog l).column).outline.any isKey = false := by
    simp [isKey_named]
  have hwhen : isJoiner (.word "WHEN") = false := by decide
  have hcase : isKey (.word "CASE") = true := by decide
  cases hkind : (targetOf catalog l).kind with
  | none =>
    simp only [leafTest, hkind]
    exact sealed_columnTest _ l.condition first
  | some kind =>
    cases kind with
    | scalar =>
      simp only [leafTest, hkind]
      exact sealed_documentTest hcolumn l.condition first
    | arrayOfScalars =>
      simp only [leafTest, hkind]
      exact sealed_arrayTest _ l.condition first
    | arrayOfObjects =>
      simp only [leafTest, hkind]
      exact sealed_arrayTest _ l.condition first
    | unknown =>
      simp only [leafTest, hkind]
      refine .group ?_ ?_
      · simp [hcase]
      · simp [hwhen]

end Sealed

end Sql
end Sieve
