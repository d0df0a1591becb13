import Sieve.Predicate.Printer
import Sieve.Proofs.Predicate.Grammar
import Sieve.Proofs.Predicate.Operands

/-!
# Sieve.Proofs.Predicate.RoundTrip

Written predicates read back. A predicate whose paths are in the grammar comes back collapsed, its
integers signed where they fit (`parse_text`); a predicate with a path outside the grammar does not
come back (`parse_text_iff`).
-/

namespace Sieve

open Text

namespace Expression

section Leaf

variable {rest : List Char}

/-- What stands behind the operator of a written leaf. -/
def operandChars : Condition → List Char
  | .nullness _ => []
  | c => ' ' :: c.value.display.toList

theorem leaf_chars (l : Leaf) :
    l.text.toList = l.field.text.toList ++
      ' ' :: (l.condition.operator.keyword.toList ++ operandChars l.condition) := by
  unfold Leaf.text operandChars
  cases l.condition <;> simp

theorem boundary_operandChars (c : Condition) (hr : Boundary rest) :
    Boundary (operandChars c ++ rest) := by
  cases c with
  | nullness negated => exact hr
  | _ => exact boundary_cons.2 (.inl rfl)

theorem operand_scalar {op : Operator} (o : Operand) (hnull : op.isNullness = false)
    (hmember : op.isMembership = false) (hr : Boundary rest) :
    operand op (' ' :: (o.scalar.display.toList ++ rest)) =
      .ok (.scalar o.scalar.canonical, rest) := by
  simp only [operand, hnull, hmember, Bool.false_eq_true, if_false, skipBlank_space,
    display_start o.finite hr, value_display o.finite hr]

theorem operand_list (negated : Bool) (items : List Operand) :
    operand (.membership negated)
        (' ' :: ((Value.list (items.map fun o => .scalar o.scalar)).display.toList ++ rest)) =
      .ok (.list ((items.map Operand.canonical).map fun o => .scalar o.scalar), rest) := by
  have hfin : ∀ s ∈ items.map Operand.scalar, s.isFinite = true := by
    intro s hs
    obtain ⟨o, -, rfl⟩ := List.mem_map.1 hs
    exact o.finite
  have hread := valueList_display hfin rest
  rw [List.map_map, List.map_map] at hread
  rw [List.map_map]
  have hopen : ∀ cs : List Char,
      skipBlank (' ' :: ((Value.list (items.map fun o => .scalar o.scalar)).display.toList ++ cs)) =
        (Value.list (items.map fun o => .scalar o.scalar)).display.toList ++ cs := by
    intro cs
    simp [Value.display, skipBlank, isBlank]
  simp only [operand, Operator.isNullness, Operator.isMembership, Bool.false_eq_true, if_false,
    if_true, hopen]
  exact hread

theorem operand_chars (c : Condition) (hr : Boundary rest) :
    operand c.operator (operandChars c ++ rest) = .ok (c.canonical.value, rest) := by
  cases c with
  | comparison op o => exact operand_scalar o rfl rfl hr
  | membership negated items => exact operand_list negated items
  | textual test o => exact operand_scalar o rfl rfl hr
  | nullness negated => rfl

theorem keyword_start (op : Operator) (cs : List Char) :
    skipBlank (op.keyword.toList ++ cs) = op.keyword.toList ++ cs := by
  rcases op with (_ | _ | _ | _ | _ | _) | (_ | _) | (_ | _ | _ | _ | _) | (_ | _) <;> rfl

theorem comparison_text {l : Leaf} (h : InGrammar l.field.text) (hr : Boundary rest) :
    comparison (l.text.toList ++ rest) =
      .ok (.comparison l.field.text l.condition.operator l.condition.canonical.value, rest) := by
  have hstop : ∀ cs, Stops isPathChar (' ' :: cs) := fun _ => stops_cons.2 (by decide)
  have hoperator := operator_keyword l.condition.operator
    (boundary_operandChars l.condition hr)
  rw [leaf_chars, List.append_assoc, List.cons_append, List.append_assoc, comparison,
    path_text (FieldPath.toList_ne_nil l.field) h (hstop _)]
  simp only [bind, Except.bind, skipBlank_space, keyword_start, hoperator,
    operand_chars l.condition hr]
  rfl

end Leaf

section Ends

variable {c : Char}

/-- The text ends, and not with a blank. -/
def EndsDark (cs : List Char) : Prop := ∃ before c, cs = before ++ [c] ∧ Text.isBlank c = false

theorem endsDark_append (as : List Char) {bs : List Char} (h : EndsDark bs) :
    EndsDark (as ++ bs) := by
  obtain ⟨before, c, rfl, hc⟩ := h
  exact ⟨as ++ before, c, by rw [List.append_assoc], hc⟩

theorem endsDark_of_all {cs : List Char} (hne : cs ≠ [])
    (h : ∀ c ∈ cs, Text.isBlank c = false) : EndsDark cs :=
  ⟨cs.dropLast, cs.getLast hne, (List.dropLast_append_getLast hne).symm,
    h _ (List.getLast_mem hne)⟩

theorem endsDark_number {cs : List Char} (hfirst : ∃ c cs', cs = c :: cs' ∧ startsNumber c = true)
    (hall : ∀ c ∈ cs, isNumberChar c = true) : EndsDark cs := by
  obtain ⟨c, cs', rfl, -⟩ := hfirst
  exact endsDark_of_all (List.cons_ne_nil c cs') fun d hd => isBlank_of_isNumberChar (hall d hd)

theorem endsDark_integer (n : Int) : EndsDark (Scalar.integerText n).toList := by
  obtain ⟨hfirst, hall⟩ := integerChars_spec n
  rw [Scalar.integerText, String.toList_ofList]
  refine endsDark_number hfirst fun c hc => ?_
  rcases hall c hc with hdigit | rfl
  · exact (isNumberChar_of_isDigit hdigit).2
  · rfl

theorem endsDark_display {s : Scalar} (h : s.isFinite = true) : EndsDark s.display.toList := by
  cases s with
  | bool b =>
    cases b with
    | true => exact ⟨['t', 'r', 'u'], 'e', rfl, rfl⟩
    | false => exact ⟨['f', 'a', 'l', 's'], 'e', rfl, rfl⟩
  | int n => exact endsDark_integer n.toInt
  | uint n => exact endsDark_integer n.toNat
  | text s =>
    refine ⟨'"' :: s.toList.flatMap Scalar.quotedChar, '"', ?_, rfl⟩
    simp [Scalar.display, Scalar.quotedText]
  | float x =>
    cases x with
    | finite x => exact endsDark_number (finite_spec x).1 (finite_spec x).2
    | infinite negative => cases h
    | nan => cases h

theorem endsDark_keyword (op : Operator) : EndsDark op.keyword.toList := by
  have hlast : ∀ cs : List Char, (∃ c ∈ cs.getLast?, Text.isBlank c = false) → EndsDark cs := by
    intro cs hcs
    obtain ⟨c, hc, hdark⟩ := hcs
    exact ⟨cs.dropLast, c, (List.dropLast_append_getLast? c hc).symm, hdark⟩
  refine hlast _ ?_
  rcases op with (_ | _ | _ | _ | _ | _) | (_ | _) | (_ | _ | _ | _ | _) | (_ | _) <;>
    exact ⟨_, rfl, rfl⟩

theorem endsDark_list (items : List Value) : EndsDark (Value.list items).display.toList := by
  have hchars : (Value.list items).display.toList =
      ('(' :: (Value.displayItems items).toList) ++ [')'] := by
    simp [Value.display]
  exact ⟨_, ')', hchars, rfl⟩

theorem endsDark_condition (c : Condition) :
    EndsDark (c.operator.keyword.toList ++ operandChars c) := by
  cases c with
  | comparison op o =>
    exact endsDark_append _ (endsDark_append [' '] (endsDark_display o.finite))
  | membership negated items =>
    exact endsDark_append _ (endsDark_append [' '] (endsDark_list _))
  | textual test o =>
    exact endsDark_append _ (endsDark_append [' '] (endsDark_display o.finite))
  | nullness negated =>
    simp only [operandChars, List.append_nil]
    exact endsDark_keyword _

theorem endsDark_leaf (l : Leaf) : EndsDark l.text.toList := by
  rw [leaf_chars]
  exact endsDark_append _ (endsDark_append [' '] (endsDark_condition l.condition))

theorem endsDark_text : ∀ p : Predicate, EndsDark p.text.toList
  | .matchAll => ⟨[], '*', by rw [Predicate.text]; rfl, rfl⟩
  | .leaf l => by
    rw [Predicate.text]
    exact endsDark_leaf l
  | .compound _ [] => ⟨[], '*', by rw [Predicate.text]; rfl, rfl⟩
  | .compound c (p :: ps) => by
    rw [Predicate.text, String.toList_append]
    exact endsDark_append _ ⟨[], ')', rfl, rfl⟩

/-- What a written predicate starts with. -/
theorem text_start (p : Predicate) (h : ∀ l ∈ p.leaves, InGrammar l.field.text) :
    ∃ c cs, p.text.toList = c :: cs ∧ Text.isBlank c = false := by
  cases p with
  | matchAll => exact ⟨'*', [], by rw [Predicate.text]; rfl, rfl⟩
  | leaf l =>
    obtain ⟨c, cs, hcs⟩ := List.exists_cons_of_ne_nil (FieldPath.toList_ne_nil l.field)
    have hc : isPathChar c = true :=
      (h l (by simp [Predicate.leaves])).1 c (by rw [hcs]; exact List.mem_cons_self ..)
    have hchars : (Predicate.leaf l).text.toList = c :: (cs ++
        ' ' :: (l.condition.operator.keyword.toList ++ operandChars l.condition)) := by
      rw [Predicate.text, leaf_chars, hcs, List.cons_append]
    exact ⟨c, _, hchars, isBlank_of_isPathChar hc⟩
  | compound c ps =>
    cases ps with
    | nil => exact ⟨'*', [], by rw [Predicate.text]; rfl, rfl⟩
    | cons p ps =>
      refine ⟨'(', (p.text ++ Predicate.textAfter c ps ++ ")").toList, ?_, rfl⟩
      rw [Predicate.text]
      simp

end Ends

section Trim

variable {cs : List Char}

theorem trimStart_of_start {c : Char} (h : Text.isBlank c = false) :
    trimStart (c :: cs) = c :: cs := by
  rw [trimStart, List.dropWhile_cons_of_neg (by rw [h]; decide)]

theorem trimEnd_of_endsDark (h : EndsDark cs) : trimEnd cs = cs := by
  obtain ⟨before, c, rfl, hc⟩ := h
  rw [trimEnd, List.reverse_append, List.reverse_singleton, List.singleton_append,
    List.dropWhile_cons_of_neg (by rw [hc]; decide), List.reverse_cons, List.reverse_reverse]

end Trim

mutual

/-- The phrase that the text of a predicate is read as. -/
def phraseOf : Predicate → Phrase
  | .matchAll => .all
  | .leaf l => .comparison l.field.text l.condition.operator l.condition.canonical.value
  | .compound _ [] => .all
  | .compound c (p :: ps) => .chain (phraseOf p) (phrasesAfter c ps)

def phrasesAfter (c : Conjunction) : List Predicate → List (Conjunction × Phrase)
  | [] => []
  | p :: ps => (c, phraseOf p) :: phrasesAfter c ps

end

section Joined

variable {rest : List Char}

/-- The end of a level: the end of the text or a closing parenthesis. -/
def AtEnd (rest : List Char) : Prop := rest = [] ∨ ∃ after, rest = ')' :: after

theorem AtEnd.boundary (h : AtEnd rest) : Boundary rest := by
  rcases h with rfl | ⟨after, rfl⟩
  · exact boundary_nil
  · exact boundary_cons.2 (.inr (.inl rfl))

theorem conjunction?_end (h : AtEnd rest) : conjunction? rest = none := by
  rcases h with rfl | ⟨after, rfl⟩ <;> rfl

theorem conjunction?_token (c : Conjunction) (cs : List Char) :
    conjunction? (' ' :: (c.token.toList ++ ' ' :: cs)) = some (c, ' ' :: cs) := by
  cases c <;> rfl

theorem compound_chars (c : Conjunction) (p : Predicate) (ps : List Predicate) :
    (Predicate.compound c (p :: ps)).text.toList =
      '(' :: (p.text.toList ++ ((Predicate.textAfter c ps).toList ++ [')'])) := by
  rw [Predicate.text]
  simp

theorem textAfter_chars (c : Conjunction) (p : Predicate) (ps : List Predicate) :
    (Predicate.textAfter c (p :: ps)).toList =
      ' ' :: (c.token.toList ++ ' ' :: (p.text.toList ++ (Predicate.textAfter c ps).toList)) := by
  rw [Predicate.textAfter]
  simp

theorem boundary_textAfter (c : Conjunction) (ps : List Predicate) (h : AtEnd rest) :
    Boundary ((Predicate.textAfter c ps).toList ++ rest) := by
  cases ps with
  | nil =>
    rw [Predicate.textAfter]
    exact h.boundary
  | cons p ps =>
    rw [textAfter_chars]
    exact boundary_cons.2 (.inl rfl)

theorem stops_text {p : Predicate} (h : ∀ l ∈ p.leaves, InGrammar l.field.text) :
    Stops isBlank (p.text.toList ++ rest) := by
  obtain ⟨c, cs, hcs, hc⟩ := text_start p h
  rw [hcs, List.cons_append]
  exact stops_cons.2 (isBlank_of_expression hc)

/-- What starts with a path is a comparison. -/
theorem term_comparison {c : Char} (hc : isPathChar c = true) (cs : List Char) (fuel : Nat) :
    term (fuel + 1) (c :: cs) = comparison (c :: cs) := by
  have hskip : skipBlank (c :: cs) = c :: cs :=
    skipBlank_of_stops (stops_cons.2 (isBlank_of_expression (isBlank_of_isPathChar hc)))
  rw [term, hskip]
  split
  · rename_i heq
    rw [(List.cons.inj heq).1] at hc
    exact absurd hc (by decide)
  · rename_i heq
    rw [(List.cons.inj heq).1] at hc
    exact absurd hc (by decide)
  · rfl

theorem term_leaf {l : Leaf} (h : InGrammar l.field.text) (hr : Boundary rest) (fuel : Nat) :
    term (fuel + 1) (l.text.toList ++ rest) = .ok (phraseOf (.leaf l), rest) := by
  obtain ⟨c, cs, hcs⟩ := List.exists_cons_of_ne_nil (FieldPath.toList_ne_nil l.field)
  have hc : isPathChar c = true := h.1 c (by rw [hcs]; exact List.mem_cons_self ..)
  have hstart : ∃ cs', l.text.toList ++ rest = c :: cs' := by
    rw [leaf_chars, hcs]
    exact ⟨_, rfl⟩
  have hread := comparison_text h hr
  obtain ⟨cs', hcs'⟩ := hstart
  rw [hcs'] at hread ⊢
  rw [term_comparison hc, phraseOf]
  exact hread

end Joined

-- The fuel is twice what is left of the text: a parenthesis takes one from `term` and one from
-- `sequence`, and a conjunction one from `joined`.
mutual

theorem term_text : ∀ (p : Predicate) (fuel : Nat) (rest : List Char),
    (∀ l ∈ p.leaves, InGrammar l.field.text) → 2 * p.text.toList.length ≤ fuel →
    Boundary rest → term fuel (p.text.toList ++ rest) = .ok (phraseOf p, rest)
  | .matchAll, fuel, rest, _, hfuel, _ => by
    rw [Predicate.text] at hfuel ⊢
    obtain ⟨fuel, rfl⟩ : ∃ n, fuel = n + 1 := ⟨fuel - 1, by simp at hfuel; omega⟩
    rfl
  | .compound _ [], fuel, rest, _, hfuel, _ => by
    rw [Predicate.text] at hfuel ⊢
    obtain ⟨fuel, rfl⟩ : ∃ n, fuel = n + 1 := ⟨fuel - 1, by simp at hfuel; omega⟩
    rfl
  | .leaf l, fuel, rest, h, hfuel, hr => by
    obtain ⟨before, c, hend, -⟩ := endsDark_text (.leaf l)
    rw [hend, List.length_append, List.length_singleton] at hfuel
    obtain ⟨fuel, rfl⟩ : ∃ n, fuel = n + 1 := ⟨fuel - 1, by omega⟩
    rw [Predicate.text]
    exact term_leaf (h l (by simp [Predicate.leaves])) hr fuel
  | .compound c (p :: ps), fuel, rest, h, hfuel, hr => by
    simp only [Predicate.leaves, Predicate.leavesOf, List.mem_append] at h
    have hp : ∀ l ∈ p.leaves, InGrammar l.field.text := fun l hl => h l (.inl hl)
    have hps : ∀ l ∈ Predicate.leavesOf ps, InGrammar l.field.text := fun l hl => h l (.inr hl)
    rw [compound_chars] at hfuel ⊢
    simp only [List.length_cons, List.length_append, List.length_nil] at hfuel
    obtain ⟨fuel, rfl⟩ : ∃ n, fuel = n + 2 := ⟨fuel - 2, by omega⟩
    have hclose : AtEnd (')' :: rest) := .inr ⟨rest, rfl⟩
    have hfirst := term_text p fuel ((Predicate.textAfter c ps).toList ++ ')' :: rest) hp (by omega)
      (boundary_textAfter c ps hclose)
    have hmore := joined_text c ps fuel (')' :: rest) hps (by omega) hclose
    have hopen : skipBlank ('(' :: (p.text.toList ++ ((Predicate.textAfter c ps).toList ++ [')']) ++
        rest)) = '(' :: (p.text.toList ++ ((Predicate.textAfter c ps).toList ++ ')' :: rest)) := by
      rw [skipBlank_of_stops (stops_cons.2 (by decide))]
      simp
    have hskip : skipBlank (p.text.toList ++ ((Predicate.textAfter c ps).toList ++ ')' :: rest)) =
        p.text.toList ++ ((Predicate.textAfter c ps).toList ++ ')' :: rest) :=
      skipBlank_of_stops (stops_text hp)
    rw [List.cons_append, term, hopen]
    simp only [hskip, sequence, bind, Except.bind, hfirst, hmore]
    rw [phraseOf]
    rfl

theorem joined_text : ∀ (c : Conjunction) (ps : List Predicate) (fuel : Nat) (rest : List Char),
    (∀ l ∈ Predicate.leavesOf ps, InGrammar l.field.text) →
    2 * (Predicate.textAfter c ps).toList.length + 1 ≤ fuel → AtEnd rest →
    joined fuel ((Predicate.textAfter c ps).toList ++ rest) = .ok (phrasesAfter c ps, rest)
  | c, [], fuel, rest, _, hfuel, hend => by
    obtain ⟨fuel, rfl⟩ : ∃ n, fuel = n + 1 := ⟨fuel - 1, by omega⟩
    rw [Predicate.textAfter, phrasesAfter]
    have hnil : ("" : String).toList ++ rest = rest := rfl
    rw [hnil, joined, conjunction?_end hend]
  | c, p :: ps, fuel, rest, h, hfuel, hend => by
    simp only [Predicate.leavesOf, List.mem_append] at h
    have hp : ∀ l ∈ p.leaves, InGrammar l.field.text := fun l hl => h l (.inl hl)
    have hps : ∀ l ∈ Predicate.leavesOf ps, InGrammar l.field.text := fun l hl => h l (.inr hl)
    rw [textAfter_chars] at hfuel ⊢
    simp only [List.length_cons, List.length_append] at hfuel
    obtain ⟨fuel, rfl⟩ : ∃ n, fuel = n + 1 := ⟨fuel - 1, by omega⟩
    have hterm := term_text p fuel ((Predicate.textAfter c ps).toList ++ rest) hp (by omega)
      (boundary_textAfter c ps hend)
    have hmore := joined_text c ps fuel rest hps (by omega) hend
    have hchars : ' ' :: (c.token.toList ++ ' ' :: (p.text.toList ++
        (Predicate.textAfter c ps).toList)) ++ rest = ' ' :: (c.token.toList ++ ' ' ::
        (p.text.toList ++ ((Predicate.textAfter c ps).toList ++ rest))) := by
      simp
    rw [hchars, joined, conjunction?_token]
    simp only [bind, Except.bind, blanks_space (stops_text hp), hterm, hmore]
    rw [phrasesAfter]
    rfl

end

theorem parse_phrase {p : Predicate} (h : ∀ l ∈ p.leaves, InGrammar l.field.text) :
    parse p.text = .ok (.chain (phraseOf p) []) := by
  obtain ⟨c, cs, hcs, hc⟩ := text_start p h
  have htrim : trimEnd (trimStart p.text.toList) = p.text.toList := by
    have hdark := endsDark_text p
    rw [hcs] at hdark ⊢
    rw [trimStart_of_start hc, trimEnd_of_endsDark hdark]
  have hterm := term_text p (2 * p.text.toList.length + 1) [] h (by omega) boundary_nil
  have hend : joined (2 * p.text.toList.length + 1) [] = .ok ([], []) := rfl
  rw [List.append_nil] at hterm
  unfold parse
  simp only [htrim, sequence, hterm, hend, bind, Except.bind]
  rfl

theorem phrasesAfter_conjunction (c : Conjunction) (ps : List Predicate) :
    ((phrasesAfter c ps).all fun m => decide (m.1 = c)) = true := by
  induction ps with
  | nil => rfl
  | cons p ps ih =>
    rw [phrasesAfter, List.all_cons, ih, decide_eq_true rfl]
    rfl

mutual

/-- Lowering collapses, since a phrase of one term stands for the term. -/
theorem lower_phraseOf : ∀ p : Predicate,
    (phraseOf p).lower = .ok (p.collapseBy Leaf.canonical)
  | .matchAll => by
    rw [phraseOf, Phrase.lower, Predicate.collapseBy]
  | .leaf l => by
    rw [phraseOf, Phrase.lower, Predicate.collapseBy, ← l.condition.operator_canonical]
    exact Predicate.make_leaf l.canonical
  | .compound _ [] => by
    rw [phraseOf, Phrase.lower, Predicate.collapseBy]
  | .compound c [p] => by
    rw [phraseOf, phrasesAfter, Phrase.lower, Predicate.collapseBy]
    exact lower_phraseOf p
  | .compound c (p :: q :: ps) => by
    have hone : ((phrasesAfter c ps).all fun m => decide (m.1 = c)) = true :=
      phrasesAfter_conjunction c ps
    rw [phraseOf, phrasesAfter, Phrase.lower, if_pos hone, Predicate.collapseBy, lower_phraseOf p,
      lower_phraseOf q, lowerAll_phrasesAfter c ps]
    rfl

theorem lowerAll_phrasesAfter (c : Conjunction) : ∀ ps : List Predicate,
    lowerAll (phrasesAfter c ps) = .ok (Predicate.collapseAllBy Leaf.canonical ps)
  | [] => by
    rw [phrasesAfter, lowerAll, Predicate.collapseAllBy]
  | p :: ps => by
    rw [phrasesAfter, lowerAll, Predicate.collapseAllBy, lower_phraseOf p,
      lowerAll_phrasesAfter c ps]
    rfl

end

end Expression

namespace Predicate

open Expression

/-- A written predicate reads back collapsed and canonical. -/
theorem parse_text {p : Predicate} (h : ∀ l ∈ p.leaves, InGrammar l.field.text) :
    parse p.text = .ok (p.collapseBy Leaf.canonical) := by
  rw [parse, parse_phrase h]
  simp only [bind, Except.bind, Phrase.lower]
  exact lower_phraseOf p

/-- A predicate comes back from its text, collapsed, exactly if its paths are in the grammar. -/
theorem parse_text_iff (p : Predicate) :
    (∃ q, parse p.text = .ok q ∧ q.same p.collapse = true) ↔
      ∀ l ∈ p.leaves, (∀ c ∈ l.field.text.toList, c.isAlphanum ∨ c = '_' ∨ c = '.') ∧
        ∀ c ∈ l.field.text.toList.head?, ¬ c.isDigit := by
  have hgrammar : ∀ l : Leaf, InGrammar l.field.text ↔
      (∀ c ∈ l.field.text.toList, c.isAlphanum ∨ c = '_' ∨ c = '.') ∧
        ∀ c ∈ l.field.text.toList.head?, ¬ c.isDigit := by
    intro l
    simp [InGrammar, isPathChar, or_assoc]
  simp only [← hgrammar]
  constructor
  · rintro ⟨q, hq, hsame⟩ l hl
    have hfields : q.fields = p.fields := by
      rw [fields_of_same q p.collapse hsame, fields_collapse]
    have hmem : l.field.text ∈ q.fields := by
      rw [hfields]
      exact List.mem_map_of_mem hl
    exact inGrammar_of_parse hq _ hmem
  · intro h
    refine ⟨_, parse_text h, ?_⟩
    exact same_collapseBy (fun l => l.same_canonical) p

end Predicate
end Sieve
