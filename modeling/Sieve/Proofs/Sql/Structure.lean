import Sieve.Proofs.Sql.ExprTokens
import Sieve.Proofs.Sql.Formula
import Sieve.Text.Ascii

/-!
# Sieve.Proofs.Sql.Structure

The text of a condition read as a formula over fragments that are known. `OR` outside parentheses
separates before `AND` does, and parentheses around everything are taken off.

* `readFormula_test`: what the conditions of predicates are read as.
* `compileFrom_structure`: the text of a compiled predicate is read as a formula over the fragments
  of its leaves, true if and only if the predicate holds by the fragments that are true.
-/

namespace Sieve
namespace Sql

/-! ## Reading -/

/-- The tokens of a text, without the blanks between them. -/
def readTokens (sql : String) : Option (List Token) := (lex sql).map unspaced

/-- A key word has the same meaning in capitals and small letters. -/
def isWord (s : String) : Token → Bool
  | .word w => Text.sameIgnoringCase w s
  | _ => false

def joins (c : Conjunction) : Token → Bool := isWord c.token

def isAlways : List Token → Bool
  | [t] => isWord "true" t
  | _ => false

/-- The conditions that a conjunction joins outside parentheses. `OR` comes first, for `AND` binds
more closely. -/
def cut? (ts : List Token) : Option (Conjunction × List (List Token)) :=
  match splitOutside (joins .or) 0 ts, splitOutside (joins .and) 0 ts with
  | a :: b :: more, _ => some (.or, a :: b :: more)
  | _, a :: b :: more => some (.and, a :: b :: more)
  | _, _ => none

/-- Formulas joined from left to right. -/
def joined (c : Conjunction) : List Formula → Option Formula
  | [] => none
  | f :: fs => some (fs.foldl (.junction c) f)

/-- The formula of a condition that is nested less than `depth` deep. One of the atoms is taken as a
whole, and nothing in it counts as `AND`, `OR` or `true`. -/
def readFormula (atoms : List (List Token)) : Nat → List Token → Option Formula
  | 0, _ => none
  | depth + 1, ts =>
    if ts ∈ atoms then some (.atom ts)
    else
      match cut? ts with
      | some (c, parts) => (parts.mapM (readFormula atoms depth)).bind (joined c)
      | none =>
        if isAlways ts then some .always else (enclosed? ts).bind (readFormula atoms depth)

/-- The formula of a text over the texts of some conditions. -/
def readSql (atoms : List String) (sql : String) : Option Formula := do
  let ts ← readTokens sql
  let fragments ← atoms.mapM readTokens
  readFormula fragments (ts.length + 1) ts

theorem readTokens_text (e : Expr) : readTokens e.text = some (unspaced e.tokens) := by
  rw [readTokens, lex_text]
  rfl

/-! ## Compound predicates -/

/-- The conditions of the children of a compound predicate. -/
def tests (catalog : Catalog) (first : Nat) : List Predicate → List Expr
  | [] => []
  | p :: ps => test catalog first p :: tests catalog (first + (arguments catalog p).length) ps

/-- A condition in parentheses. -/
def grouped (e : Expr) : List Token := inParens (unspaced e.tokens)

/-- Further conditions in parentheses, each behind a conjunction. -/
def groupedAfter (c : Conjunction) (es : List Expr) : List Token :=
  es.flatMap fun e => .word c.token :: grouped e

theorem unspaced_paren (e : Expr) : unspaced (Expr.paren e).tokens = grouped e := by
  simp [Expr.tokens, grouped]

section Compound

variable (catalog : Catalog)

theorem test_compound (c : Conjunction) (p q : Predicate) (ps : List Predicate) (first : Nat) :
    test catalog first (.compound c (p :: q :: ps)) =
      testAfter catalog c (.paren (test catalog first p)) (first + (arguments catalog p).length)
        (q :: ps) := by
  rw [test]
  exact fun h => by cases h

theorem unspaced_testAfter (c : Conjunction) (before : Expr) (first : Nat) (ps : List Predicate) :
    unspaced (testAfter catalog c before first ps).tokens =
      unspaced before.tokens ++ groupedAfter c (tests catalog first ps) := by
  induction ps generalizing before first with
  | nil =>
    rw [testAfter, tests]
    exact (List.append_nil _).symm
  | cons p ps ih =>
    rw [testAfter, ih, tests]
    simp [Expr.tokens, groupedAfter, grouped]

theorem outline_testAfter (c : Conjunction) (before : Expr) (first : Nat) (ps : List Predicate) :
    (testAfter catalog c before first ps).outline =
      before.outline ++ List.replicate ps.length (.word c.token) := by
  induction ps generalizing before first with
  | nil =>
    rw [testAfter]
    exact (List.append_nil _).symm
  | cons p ps ih =>
    rw [testAfter, ih]
    simp [List.replicate_succ]

/-- Outside parentheses there is either no word of a compound predicate, or nothing else. -/
theorem outline_test : ∀ (p : Predicate) (first : Nat),
    (test catalog first p).outline.any isKey = false ∨
      (test catalog first p).outline.all isJoiner = true
  | .leaf l, first => by
    rw [test]
    exact .inl (sealed_leafTest catalog l first).outline_any
  | .matchAll, first => by
    rw [test]
    exact .inl rfl
  | .compound _ [], first => by
    rw [test]
    exact .inl rfl
  | .compound _ [p], first => by
    rw [test]
    exact outline_test p first
  | .compound c (p :: q :: ps), first => by
    refine .inr ?_
    rw [test_compound, outline_testAfter]
    cases c <;> simp [isJoiner, Conjunction.token]

end Compound

/-! ## Where a condition is cut -/

section Cut

variable {separates : Token → Bool} {c : Conjunction}

theorem splitOutside_grouped (hopen : separates openParen = false)
    (hword : separates (.word c.token) = true) (e : Expr) (es : List Expr) :
    splitOutside separates 0 (grouped e ++ groupedAfter c es) = (e :: es).map grouped := by
  induction es generalizing e with
  | nil =>
    rw [grouped, splitOutside_group (balanced_tokens e).unspaced hopen]
    simp [groupedAfter, splitOutside, grouped]
  | cons e' es ih =>
    have hafter : groupedAfter c (e' :: es) = .word c.token :: (grouped e' ++ groupedAfter c es) :=
      rfl
    rw [grouped, splitOutside_group (balanced_tokens e).unspaced hopen, hafter,
      splitOutside_separator hword, ih]
    simp [grouped]

theorem splitOutside_whole (hopen : separates openParen = false) {e : Expr}
    (h : ∀ t ∈ e.outline, separates t = false) :
    splitOutside separates 0 (unspaced e.tokens) = [unspaced e.tokens] := by
  rw [← outer_tokens] at h
  have hsplit := splitOutside_plain (balanced_tokens e).unspaced hopen h []
  rw [List.append_nil] at hsplit
  rw [hsplit]
  simp [splitOutside]

theorem cut?_whole {e : Expr} (h : ∀ c, ∀ t ∈ e.outline, joins c t = false) :
    cut? (unspaced e.tokens) = none := by
  rw [cut?, splitOutside_whole rfl (h .or), splitOutside_whole rfl (h .and)]

theorem cut?_grouped (e : Expr) : cut? (grouped e) = none := by
  rw [← unspaced_paren]
  exact cut?_whole (by simp)

theorem cut?_testAfter (catalog : Catalog) (c : Conjunction) (e : Expr) (first : Nat)
    (p : Predicate) (ps : List Predicate) :
    cut? (unspaced (testAfter catalog c (.paren e) first (p :: ps)).tokens) =
      some (c, (e :: tests catalog first (p :: ps)).map grouped) := by
  have hparts : splitOutside (joins c) 0
      (unspaced (testAfter catalog c (.paren e) first (p :: ps)).tokens) =
        (e :: tests catalog first (p :: ps)).map grouped := by
    rw [unspaced_testAfter, unspaced_paren]
    exact splitOutside_grouped rfl (by cases c <;> decide) e _
  cases c with
  | or =>
    rw [cut?, hparts]
    rfl
  | and =>
    have hwhole : splitOutside (joins .or) 0
        (unspaced (testAfter catalog .and (.paren e) first (p :: ps)).tokens) =
          [unspaced (testAfter catalog .and (.paren e) first (p :: ps)).tokens] := by
      refine splitOutside_whole rfl fun t ht => ?_
      rw [outline_testAfter, Expr.outline, List.nil_append] at ht
      rw [List.eq_of_mem_replicate ht]
      decide
    rw [cut?, hwhole, hparts]
    rfl

end Cut

/-! ## What conditions are read as -/

section Read

variable (catalog : Catalog) {atoms : List (List Token)}

/-- The atoms are fragments that are taken for nothing else. -/
def AllSealed (atoms : List (List Token)) : Prop :=
  ∀ ts ∈ atoms, ∃ e, Sealed e ∧ ts = unspaced e.tokens

theorem readFormula_true (h : AllSealed atoms) (depth : Nat) :
    readFormula atoms (depth + 1) (unspaced (Expr.truth true).tokens) = some .always := by
  have htokens : unspaced (Expr.truth true).tokens = [.word "true"] := rfl
  have hnone : cut? (unspaced (Expr.truth true).tokens) = none := by
    refine cut?_whole fun c t ht => ?_
    rw [List.eq_of_mem_singleton ht]
    cases c <;> decide
  have hatoms : unspaced (Expr.truth true).tokens ∉ atoms := by
    intro hmem
    obtain ⟨e, he, heq⟩ := h _ hmem
    exact he.ne_true heq
  have halways : isAlways [.word "true"] = true := by decide
  rw [readFormula, if_neg hatoms, hnone, htokens]
  simp [halways]

theorem readFormula_grouped (h : AllSealed atoms) {e : Expr}
    (he : e.outline.any isKey = false ∨ e.outline.all isJoiner = true) (depth : Nat) :
    readFormula atoms (depth + 1) (grouped e) = readFormula atoms depth (unspaced e.tokens) := by
  have hatoms : grouped e ∉ atoms := by
    intro hmem
    obtain ⟨f, hf, heq⟩ := h _ hmem
    exact hf.ne_inParens he heq
  have halways : isAlways (grouped e) = false := by
    unfold grouped inParens
    cases unspaced e.tokens <;> rfl
  have hinner : enclosed? (grouped e) = some (unspaced e.tokens) :=
    enclosed?_inParens (balanced_tokens e).unspaced
  rw [readFormula, if_neg hatoms, cut?_grouped, hinner]
  simp [halways]

theorem not_mem_testAfter (h : AllSealed atoms) (c : Conjunction) (e : Expr) (first : Nat)
    (p : Predicate) (ps : List Predicate) :
    unspaced (testAfter catalog c (.paren e) first (p :: ps)).tokens ∉ atoms := by
  intro hmem
  obtain ⟨f, hf, heq⟩ := h _ hmem
  refine hf.ne_keyed ?_ heq
  have hkey : isKey (.word c.token) = true := by cases c <;> rfl
  rw [outline_testAfter]
  simp [List.replicate_succ, hkey]

theorem length_grouped (e : Expr) : (grouped e).length = (unspaced e.tokens).length + 2 := by
  simp [grouped, inParens]

theorem length_groupedAfter_cons (c : Conjunction) (e : Expr) (es : List Expr) :
    (groupedAfter c (e :: es)).length = (grouped e).length + (groupedAfter c es).length + 1 := by
  simp [groupedAfter]

theorem length_lt_groupedAfter (c : Conjunction) {e : Expr} {es : List Expr} (h : e ∈ es) :
    (grouped e).length < (groupedAfter c es).length := by
  induction es with
  | nil => cases h
  | cons e' es ih =>
    rw [length_groupedAfter_cons]
    rcases List.mem_cons.1 h with heq | hmem
    · rw [heq]
      omega
    · have hlt := ih hmem
      omega

/-- A compound predicate is longer than its children. -/
theorem length_lt_testAfter (c : Conjunction) {e e' : Expr} {first : Nat} {p : Predicate}
    {ps : List Predicate} (h : e ∈ e' :: tests catalog first (p :: ps)) :
    (grouped e).length <
      (unspaced (testAfter catalog c (.paren e') first (p :: ps)).tokens).length := by
  rw [unspaced_testAfter, unspaced_paren, List.length_append]
  rcases List.mem_cons.1 h with heq | hmem
  · rw [heq, tests, length_groupedAfter_cons]
    omega
  · have hlt := length_lt_groupedAfter c hmem
    omega

mutual

/-- The condition of a predicate is read as the formula of the predicate. -/
theorem readFormula_test (h : AllSealed atoms) : ∀ (p : Predicate) (first depth : Nat),
    fragments catalog first p.leaves ⊆ atoms →
    (unspaced (test catalog first p).tokens).length < depth →
    readFormula atoms depth (unspaced (test catalog first p).tokens) =
      some (formula catalog first p)
  | p, first, 0, hknown, hdepth => absurd hdepth (Nat.not_lt_zero _)
  | .matchAll, first, depth + 1, hknown, hdepth => by
    rw [test, formula, readFormula_true h]
  | .leaf l, first, depth + 1, hknown, hdepth => by
    rw [Predicate.leaves] at hknown
    have hmem := hknown (List.mem_singleton_self _)
    rw [test, formula, readFormula, if_pos hmem]
  | .compound _ [], first, depth + 1, hknown, hdepth => by
    rw [test, formula, readFormula_true h]
  | .compound _ [p], first, depth + 1, hknown, hdepth => by
    rw [Predicate.leaves, Predicate.leavesOf, Predicate.leavesOf, List.append_nil] at hknown
    rw [test] at hdepth ⊢
    rw [formula]
    exact readFormula_test h p first _ hknown hdepth
  | .compound c (p :: q :: ps), first, depth + 1, hknown, hdepth => by
    rw [Predicate.leaves] at hknown
    rw [test_compound] at hdepth ⊢
    have hshort : ∀ e ∈ tests catalog first (p :: q :: ps), (grouped e).length < depth := by
      intro e he
      have hlt := length_lt_testAfter catalog c he
      omega
    have hparts := readFormula_tests h (p :: q :: ps) first depth hknown hshort
    rw [tests] at hparts
    have hatoms := not_mem_testAfter catalog h c (test catalog first p)
      (first + (arguments catalog p).length) q ps
    rw [readFormula, if_neg hatoms, cut?_testAfter]
    simp only [hparts]
    rw [formula, formulas]
    · rfl
    · exact fun h => by cases h

theorem readFormula_tests (h : AllSealed atoms) : ∀ (ps : List Predicate) (first depth : Nat),
    fragments catalog first (Predicate.leavesOf ps) ⊆ atoms →
    (∀ e ∈ tests catalog first ps, (grouped e).length < depth) →
    ((tests catalog first ps).map grouped).mapM (readFormula atoms depth) =
      some (formulas catalog first ps)
  | [], first, depth, hknown, hdepth => by
    rw [tests, formulas]
    rfl
  | p :: ps, first, depth, hknown, hdepth => by
    rw [Predicate.leavesOf, fragments_append, ← arguments_eq] at hknown
    obtain ⟨hfirst, hothers⟩ := List.append_subset.1 hknown
    rw [tests] at hdepth
    obtain ⟨hlt, hrest⟩ := List.forall_mem_cons.1 hdepth
    rw [length_grouped] at hlt
    obtain ⟨inner, rfl⟩ : ∃ inner, depth = inner + 1 := ⟨depth - 1, by omega⟩
    have hread : readFormula atoms (inner + 1) (grouped (test catalog first p)) =
        some (formula catalog first p) := by
      rw [readFormula_grouped h (outline_test catalog p first)]
      exact readFormula_test h p first inner hfirst (by omega)
    have hreads := readFormula_tests h ps _ _ hothers hrest
    rw [tests, formulas, List.map_cons, List.mapM_cons, hread, hreads]
    rfl

end

end Read

/-! ## Compiled predicates -/

/-- The texts of compiled leaves, the first argument of which has the given number. -/
def leafTexts (catalog : Catalog) (first : Nat) (ls : List Leaf) : List String :=
  (numbered catalog first ls).map fun (l, k) => (compileFrom catalog (.leaf l) k).sql

section Compiled

variable (catalog : Catalog) (first : Nat) (ls : List Leaf)

theorem readTokens_leafTexts :
    (leafTexts catalog first ls).mapM readTokens = some (fragments catalog first ls) := by
  rw [leafTexts, fragments]
  induction numbered catalog first ls with
  | nil => rfl
  | cons pair pairs ih =>
    obtain ⟨l, k⟩ := pair
    have hread : readTokens (compileFrom catalog (.leaf l) k).sql =
        some (unspaced (leafTest catalog l k).tokens) := by
      have htest : test catalog k (.leaf l) = leafTest catalog l k := by rw [test]
      rw [← htest]
      exact readTokens_text _
    rw [List.map_cons, List.mapM_cons, hread, ih]
    rfl

theorem allSealed_fragments : AllSealed (fragments catalog first ls) := by
  intro ts hts
  obtain ⟨⟨l, k⟩, -, rfl⟩ := List.mem_map.1 hts
  exact ⟨_, sealed_leafTest catalog l k, rfl⟩

theorem balanced_of_mem_fragments {ts : List Token} (h : ts ∈ fragments catalog first ls) :
    Balanced ts := by
  obtain ⟨e, -, rfl⟩ := allSealed_fragments catalog first ls ts h
  exact (balanced_tokens e).unspaced

end Compiled

/-- The text of a compiled predicate is read as a formula over the texts of its compiled leaves, in
which parentheses match. Whatever each of them is, true, false or unknown, the formula is true if
and only if the predicate holds by the leaves that are true. -/
theorem compileFrom_structure (catalog : Catalog) (p : Predicate) (first : Nat) :
    ∃ f, readSql (leafTexts catalog first p.leaves) (compileFrom catalog p first).sql = some f ∧
      (leafTexts catalog first p.leaves).mapM readTokens = some f.atoms ∧
      (∀ ts ∈ f.atoms, Balanced ts) ∧
      ∀ v : Nat → Truth,
        f.value v 0 = some true ↔ p.holdsBy (fun i => v i = some true) 0 = true := by
  have hatoms := readTokens_leafTexts catalog first p.leaves
  have hread := readFormula_test catalog (allSealed_fragments catalog first p.leaves) p first _
    (List.Subset.refl _) (Nat.lt_succ_self _)
  have hformula := atoms_formula catalog p first
  refine ⟨formula catalog first p, ?_, ?_, ?_, ?_⟩
  · have htokens : readTokens (compileFrom catalog p first).sql =
        some (unspaced (test catalog first p).tokens) := readTokens_text _
    rw [readSql, htokens, hatoms]
    exact hread
  · rw [hatoms, hformula]
  · rw [hformula]
    exact fun ts hts => balanced_of_mem_fragments catalog first p.leaves hts
  · exact fun v => value_formula catalog v p first 0

end Sql
end Sieve
