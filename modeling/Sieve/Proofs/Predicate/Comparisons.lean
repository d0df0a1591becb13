import Sieve.Proofs.Predicate.Derivation

/-!
# Sieve.Proofs.Predicate.Comparisons

The readers of operators, values and lists give what the grammar gives, and all of it:
`operator_iff`, `value_iff`, `operand_iff` and, put together, `comparison_iff`.
-/

namespace Sieve
namespace Grammar

open Expression (isBlank isPathChar isWordChar startsNumber isNumberChar ok_of_bind)
open Text (Stops)

variable {cs rest : List Char}

section Operators

variable {op : Operator}

theorem symbol?_iff {op : Comparison} :
    Expression.symbol? cs = some (op, rest) ↔ SymbolText op cs rest := by
  constructor
  · intro h
    unfold Expression.symbol? at h
    split at h <;> cases h
    case h_4 =>
      refine ⟨rfl, fun other ⟨tail, htail⟩ => ?_⟩
      cases other <;> simp [Operator.token] at htail ⊢
    case h_5 hnot =>
      refine ⟨rfl, fun other ⟨tail, htail⟩ => ?_⟩
      cases other <;> simp [Operator.token] at htail ⊢
      exact absurd htail.symm (hnot tail)
    case h_6 hnot =>
      refine ⟨rfl, fun other ⟨tail, htail⟩ => ?_⟩
      cases other <;> simp [Operator.token] at htail ⊢
      exact absurd htail.symm (hnot tail)
    all_goals exact ⟨rfl, fun other _ => by cases other <;> decide⟩
  · rintro ⟨rfl, hlongest⟩
    -- Only `>` and `<` start a longer symbol.
    cases op with
    | gt =>
      cases rest with
      | nil => rfl
      | cons c rest =>
        by_cases hc : c = '='
        · subst hc
          exact absurd (hlongest .ge ⟨rest, rfl⟩) (by decide)
        · simp [Operator.token, Expression.symbol?, hc]
    | lt =>
      cases rest with
      | nil => rfl
      | cons c rest =>
        by_cases hc : c = '='
        · subst hc
          exact absurd (hlongest .le ⟨rest, rfl⟩) (by decide)
        · simp [Operator.token, Expression.symbol?, hc]
    | _ => rfl

theorem symbol?_of_word {w : String} (h : Word w cs rest) : Expression.symbol? cs = none := by
  obtain ⟨c, more, rfl, hc⟩ := h.start
  unfold Expression.symbol?
  split
  all_goals first | rfl | (rename_i h; rw [(List.cons.inj h).1] at hc; exact absurd hc (by decide))

theorem ofToken?_token (op : Operator) : Operator.ofToken? op.token.toList = some op := by
  have h : ∀ op ∈ Operator.all, Operator.ofToken? op.token.toList = some op := by decide +kernel
  exact h op op.mem_all

/-- No name of an operator is the first of several words. -/
theorem token_ne (op : Operator) : op.token ≠ "IS" ∧ op.token ≠ "NOT" := by
  have h : ∀ op ∈ Operator.all, op.token ≠ "IS" ∧ op.token ≠ "NOT" := by decide +kernel
  exact h op op.mem_all

theorem operatorText_of_words (h : Expression.operatorWords cs = .ok (op, rest)) :
    OperatorText op cs rest := by
  obtain ⟨⟨first, a⟩, hfirst, h⟩ := ok_of_bind h
  have hfirst := word_iff.1 hfirst
  dsimp only at h
  split at h
  · rename_i his
    rw [his] at hfirst
    obtain ⟨⟨second, b⟩, hsecond, h⟩ := ok_of_bind h
    obtain ⟨x, hgap, hsecond⟩ := nextWord_iff.1 hsecond
    dsimp only at h
    split at h
    · rename_i hnull
      rw [hnull] at hsecond
      cases h
      exact .isNull hfirst hgap hsecond
    · split at h
      · rename_i hnot
        rw [hnot] at hsecond
        obtain ⟨⟨third, c⟩, hthird, h⟩ := ok_of_bind h
        obtain ⟨y, hgap', hthird⟩ := nextWord_iff.1 hthird
        dsimp only at h
        split at h
        · rename_i hnull
          rw [hnull] at hthird
          cases h
          exact .isNotNull hfirst hgap hsecond hgap' hthird
        · cases h
      · cases h
  · split at h
    · rename_i hnot
      rw [hnot] at hfirst
      obtain ⟨⟨second, b⟩, hsecond, h⟩ := ok_of_bind h
      obtain ⟨x, hgap, hsecond⟩ := nextWord_iff.1 hsecond
      dsimp only at h
      split at h
      · rename_i hin
        rw [hin] at hsecond
        cases h
        exact .notIn hfirst hgap hsecond
      · split at h
        · rename_i hlike
          rw [hlike] at hsecond
          cases h
          exact .notLike hfirst hgap hsecond
        · cases h
    · split at h
      · rename_i hop
        cases h
        unfold Operator.ofToken? at hop
        have htoken := List.find?_some hop
        rw [← String.toList_inj.1 (eq_of_beq htoken)] at hfirst
        exact .name hfirst
      · cases h

theorem operator_iff : Expression.operator cs = .ok (op, rest) ↔ OperatorText op cs rest := by
  constructor
  · intro h
    unfold Expression.operator at h
    split at h
    · rename_i hsymbol
      cases h
      exact .symbol (symbol?_iff.1 hsymbol)
    · exact operatorText_of_words h
  · intro h
    cases h with
    | symbol h => simp only [Expression.operator, symbol?_iff.2 h]
    | name h =>
      obtain ⟨his, hnot⟩ := token_ne op
      simp only [Expression.operator, symbol?_of_word h, Expression.operatorWords, word_iff.2 h,
        bind, Except.bind, his, hnot, if_false, ofToken?_token]
    | isNull his hgap hnull =>
      have hnext := nextWord_iff.2 ⟨_, hgap, hnull⟩
      simp only [Expression.operator, symbol?_of_word his, Expression.operatorWords,
        word_iff.2 his, hnext, bind, Except.bind, if_true]
    | isNotNull his hgap hnot hgap' hnull =>
      have hnext := nextWord_iff.2 ⟨_, hgap, hnot⟩
      have hlast := nextWord_iff.2 ⟨_, hgap', hnull⟩
      have hne : "NOT" ≠ "NULL" := by decide
      simp only [Expression.operator, symbol?_of_word his, Expression.operatorWords,
        word_iff.2 his, hnext, hlast, bind, Except.bind, if_true, hne, if_false]
    | notIn hnot hgap hin =>
      have hnext := nextWord_iff.2 ⟨_, hgap, hin⟩
      have hne : "NOT" ≠ "IS" := by decide
      simp only [Expression.operator, symbol?_of_word hnot, Expression.operatorWords,
        word_iff.2 hnot, hnext, bind, Except.bind, if_true, hne, if_false]
    | notLike hnot hgap hlike =>
      have hnext := nextWord_iff.2 ⟨_, hgap, hlike⟩
      have hne : "NOT" ≠ "IS" := by decide
      have hin : "LIKE" ≠ "IN" := by decide
      simp only [Expression.operator, symbol?_of_word hnot, Expression.operatorWords,
        word_iff.2 hnot, hnext, bind, Except.bind, if_true, hne, hin, if_false]

/-- What an operator starts with. -/
theorem OperatorText.stops (h : OperatorText op cs rest) : Stops isBlank cs := by
  have hword : ∀ {w : String} {cs rest : List Char}, Word w cs rest → Stops isBlank cs := by
    intro w cs rest h
    obtain ⟨c, more, rfl, hc⟩ := h.start
    exact Text.stops_cons.2 (Expression.isBlank_of_isWordChar hc)
  cases h with
  | @symbol op _ _ h =>
    rw [h.text]
    cases op <;> exact Text.stops_cons.2 (by decide)
  | name h => exact hword h
  | isNull h => exact hword h
  | isNotNull h => exact hword h
  | notIn h => exact hword h
  | notLike h => exact hword h

end Operators

section Values

variable {v : Value}

theorem quoted?_iff {quote : Char} {text : List Char} (hquote : quote ≠ '\\') :
    Expression.quoted? quote cs = some (text, rest) ↔ QuotedText quote text cs rest := by
  constructor
  · intro h
    fun_induction Expression.quoted? quote cs generalizing text
    case case1 => cases h
    case case2 c cs ih =>
      obtain ⟨⟨more, after⟩, hmore, heq⟩ := Option.map_eq_some_iff.1 h
      cases heq
      exact .escaped (ih hmore)
    case case3 =>
      cases h
      exact .close
    case case4 => cases h
    case case5 c cs hnot hquote' hslash ih =>
      obtain ⟨⟨more, after⟩, hmore, heq⟩ := Option.map_eq_some_iff.1 h
      cases heq
      exact .plain hquote' hslash (ih hmore)
  · intro h
    induction h with
    | @close rest => cases rest <;> simp [Expression.quoted?, hquote]
    | escaped _ ih => simp [Expression.quoted?, ih]
    | plain hc hslash _ ih => rw [Expression.quoted?_cons hslash hc, ih]; rfl

theorem numeral_iff {s : Scalar} : Expression.numberValue? cs = some s ↔ Numeral cs s := by
  have hmarked : (cs.any fun c => c == '.' || c == 'e' || c == 'E') = true ↔
      ∃ c ∈ cs, IsPointOrExponent c := by
    simp [IsPointOrExponent, or_assoc]
  constructor
  · intro h
    unfold Expression.numberValue? at h
    split at h
    · rename_i hany
      obtain ⟨x, hx, rfl⟩ := Option.map_eq_some_iff.1 h
      exact .float (hmarked.1 hany) hx
    · rename_i hany
      have hplain : ∀ c ∈ cs, ¬ IsPointOrExponent c :=
        fun c hc hmark => hany (hmarked.2 ⟨c, hc, hmark⟩)
      split at h
      · rename_i hn
        cases h
        exact .int hplain hn
      · rename_i hn
        obtain ⟨n, hread, rfl⟩ := Option.map_eq_some_iff.1 h
        exact .uint hplain hn hread
  · intro h
    have hplain : (∀ c ∈ cs, ¬ IsPointOrExponent c) →
        ¬ (cs.any fun c => c == '.' || c == 'e' || c == 'E') = true := by
      intro hnot hany
      obtain ⟨c, hc, hmark⟩ := hmarked.1 hany
      exact hnot c hc hmark
    cases h with
    | float hmark hread => rw [Expression.numberValue?, if_pos (hmarked.2 hmark), hread]; rfl
    | int hnot hread => rw [Expression.numberValue?, if_neg (hplain hnot), hread]
    | uint hnot hint hread => rw [Expression.numberValue?, if_neg (hplain hnot), hint, hread]; rfl

theorem startsNumber_of_isWordChar {c : Char} (h : isWordChar c = true) :
    startsNumber c = false := by
  cases hs : startsNumber c with
  | false => rfl
  | true =>
    simp [isWordChar, Char.isAlpha, Char.isUpper, Char.isLower, UInt32.le_iff_toNat_le] at h
    simp [startsNumber, Char.isDigit, UInt32.le_iff_toNat_le, or_assoc] at hs
    rcases hs with hs | rfl | rfl | rfl
    · rcases h with (h | h) | rfl
      · omega
      · omega
      · exact absurd hs (by decide)
    all_goals exact absurd h (by decide)

theorem value_word {w : String} (h : Word w cs rest) :
    Expression.value cs = Expression.wordValue cs := by
  obtain ⟨c, more, rfl, hc⟩ := h.start
  have hquote : ¬ (c = '"' ∨ c = '\x27') := by
    rintro (rfl | rfl) <;> exact absurd hc (by decide)
  rw [Expression.value, if_neg hquote, if_neg (by rw [startsNumber_of_isWordChar hc]; decide)]

theorem value_iff : Expression.value cs = .ok (v, rest) ↔ ValueText v cs rest := by
  constructor
  · intro h
    cases cs with
    | nil => cases h
    | cons c cs =>
      rw [Expression.value] at h
      split at h
      · rename_i hquote
        have hslash : c ≠ '\\' := by rcases hquote with rfl | rfl <;> decide
        split at h
        · rename_i htext
          cases h
          exact .text hquote ((quoted?_iff hslash).1 htext)
        · cases h
      · split at h
        · rename_i hstart
          obtain ⟨⟨taken, a⟩, hrun, h⟩ := ok_of_bind h
          dsimp only at h
          split at h
          · rename_i hnumber
            cases h
            refine .number (run_iff.1 hrun) (fun d hd => ?_) (numeral_iff.1 hnumber)
            cases hd
            exact hstart
          · cases h
        · obtain ⟨⟨w, a⟩, hword, h⟩ := ok_of_bind h
          have hword := word_iff.1 hword
          dsimp only at h
          split at h
          · rename_i hw
            rw [hw] at hword
            cases h
            exact .yes hword
          · split at h
            · rename_i hw
              rw [hw] at hword
              cases h
              exact .no hword
            · split at h
              · rename_i hw
                rw [hw] at hword
                cases h
                exact .null hword
              · cases h
  · intro h
    cases h with
    | @text quote _ _ _ hquote htext =>
      have hslash : quote ≠ '\\' := by rcases hquote with rfl | rfl <;> decide
      rw [Expression.value, if_pos hquote, (quoted?_iff hslash).2 htext]
    | number hrun hstart hnumeral =>
      obtain ⟨c, more, rfl, -⟩ := hrun.start
      have hc : startsNumber c = true := hstart c rfl
      have hquote : ¬ (c = '"' ∨ c = '\x27') := by
        rintro (rfl | rfl) <;> exact absurd hc (by decide)
      rw [Expression.value, if_neg hquote, if_pos hc, run_iff.2 hrun]
      simp only [bind, Except.bind, numeral_iff.2 hnumeral]
    | yes h =>
      rw [value_word h, Expression.wordValue, word_iff.2 h]
      rfl
    | no h =>
      rw [value_word h, Expression.wordValue, word_iff.2 h]
      rfl
    | null h =>
      rw [value_word h, Expression.wordValue, word_iff.2 h]
      rfl

/-- What a value starts with. -/
theorem ValueText.start (h : ValueText v cs rest) :
    ∃ c more, cs = c :: more ∧ isBlank c = false ∧ c ≠ ')' :=
  Expression.value_start (value_iff.2 h)

theorem ValuesText.start {vs : List Value} (h : ValuesText vs cs rest) :
    ∃ c more, cs = c :: more ∧ isBlank c = false ∧ c ≠ ')' := by
  cases h with
  | last h => exact h.start
  | more h => exact h.start

theorem valuesText_of_values {vs : List Value} (fuel : Nat)
    (h : Expression.values fuel cs = .ok (vs, rest)) :
    ∃ a, ValuesText vs (Expression.skipBlank cs) a ∧ rest = Expression.skipBlank a := by
  induction fuel generalizing cs vs rest with
  | zero => cases h
  | succ fuel ih =>
    obtain ⟨⟨v, a⟩, hv, h⟩ := ok_of_bind h
    have hvalue := value_iff.1 hv
    dsimp only at h
    split at h
    · rename_i b hcomma
      obtain ⟨⟨more, after⟩, hmore, h⟩ := ok_of_bind h
      cases h
      obtain ⟨last, hvalues, hlast⟩ := ih hmore
      have hblanks : Blanks a (',' :: b) := hcomma ▸ blanks_skipBlank a
      exact ⟨last, .more hvalue hblanks (blanks_skipBlank b) hvalues, hlast⟩
    · cases h
      exact ⟨a, .last hvalue, rfl⟩

theorem ValueText.length_lt (h : ValueText v cs rest) : rest.length < cs.length := by
  have hquoted : ∀ {quote : Char} {text cs rest : List Char}, QuotedText quote text cs rest →
      rest.length < cs.length := by
    intro quote text cs rest h
    induction h with
    | close => exact Nat.lt_succ_self _
    | escaped _ ih => exact Nat.lt_succ_of_lt (Nat.lt_succ_of_lt ih)
    | plain _ _ _ ih => exact Nat.lt_succ_of_lt ih
  cases h with
  | text _ h => exact Nat.lt_succ_of_lt (hquoted h)
  | number h => exact h.length_lt
  | yes h => exact h.length_lt
  | no h => exact h.length_lt
  | null h => exact h.length_lt

theorem ValuesText.length_lt {vs : List Value} (h : ValuesText vs cs rest) :
    rest.length < cs.length := by
  induction h with
  | last h => exact h.length_lt
  | more h hcomma hblanks _ ih =>
    have hvalue := h.length_lt
    have hcomma := hcomma.length_le
    have hblanks := hblanks.length_le
    rw [List.length_cons] at hcomma
    omega

/-- The values are read up to what is neither a blank nor a comma. -/
theorem values_of_valuesText {vs : List Value} (h : ValuesText vs cs rest)
    (hrest : ∀ more, Expression.skipBlank rest ≠ ',' :: more) {fuel : Nat}
    (hfuel : cs.length < fuel) {before : List Char} (hbefore : Blanks before cs) :
    Expression.values fuel before = .ok (vs, Expression.skipBlank rest) := by
  induction h generalizing fuel before with
  | @last v cs rest h =>
    obtain ⟨fuel, rfl⟩ := Nat.exists_eq_succ_of_ne_zero (Nat.ne_zero_of_lt hfuel)
    obtain ⟨c, more, rfl, hblank, -⟩ := h.start
    rw [Expression.values, hbefore.skipBlank_of_stops (Text.stops_cons.2 hblank), value_iff.2 h]
    dsimp only [bind, Except.bind]
    split
    · rename_i heq
      exact absurd heq (hrest _)
    · rfl
  | @more v vs cs a b c rest h hcomma hblanks htail ih =>
    obtain ⟨fuel, rfl⟩ := Nat.exists_eq_succ_of_ne_zero (Nat.ne_zero_of_lt hfuel)
    obtain ⟨d, more, rfl, hblank, -⟩ := h.start
    have hlength : c.length < fuel := by
      have hvalue := h.length_lt
      have hcomma := hcomma.length_le
      have hblanks := hblanks.length_le
      rw [List.length_cons] at hcomma
      omega
    have hmark : Stops isBlank (',' :: b) := Text.stops_cons.2 (by decide)
    rw [Expression.values, hbefore.skipBlank_of_stops (Text.stops_cons.2 hblank), value_iff.2 h]
    simp only [bind, Except.bind, hcomma.skipBlank_of_stops hmark, ih hrest hlength hblanks]
    rfl

theorem mark_iff {c : Char} : Expression.mark c cs = .ok ((), rest) ↔ cs = c :: rest := by
  cases cs with
  | nil => simp [Expression.mark]
  | cons d cs =>
    by_cases h : d = c
    · simp [Expression.mark, h]
    · simp [Expression.mark, h]

theorem valueList_iff : Expression.valueList cs = .ok (v, rest) ↔
    ∃ vs, v = .list vs ∧ ListText vs cs rest := by
  constructor
  · intro h
    obtain ⟨⟨done, a⟩, hopen, h⟩ := ok_of_bind h
    rw [mark_iff.1 hopen]
    dsimp only at h
    have hblanks := blanks_skipBlank a
    split at h
    · rename_i b hclose
      cases h
      rw [hclose] at hblanks
      exact ⟨[], rfl, .empty hblanks⟩
    · obtain ⟨⟨vs, b⟩, hvalues, h⟩ := ok_of_bind h
      obtain ⟨⟨done, c⟩, hclose, h⟩ := ok_of_bind h
      cases h
      obtain ⟨d, hvalues, hd⟩ := valuesText_of_values _ hvalues
      have hend : Expression.skipBlank d = ')' :: c := by
        rw [← mark_iff.1 hclose, hd, Expression.skipBlank_of_stops (stops_skipBlank d)]
      rw [Expression.skipBlank_of_stops (stops_skipBlank a)] at hvalues
      exact ⟨vs, rfl, .items hblanks hvalues (hend ▸ blanks_skipBlank d)⟩
  · rintro ⟨vs, rfl, h⟩
    have hmark : Stops isBlank (')' :: rest) := Text.stops_cons.2 (by decide)
    cases h with
    | empty hclose =>
      simp only [Expression.valueList, Expression.mark, if_true, bind, Except.bind,
        hclose.skipBlank_of_stops hmark]
      rfl
    | @items _ cs a b rest hblanks hvalues hclose =>
      obtain ⟨c, more, rfl, hblank, hparen⟩ := hvalues.start
      have hend := hclose.skipBlank_of_stops hmark
      have hread := values_of_valuesText hvalues (by simp [hend]) (Nat.lt_succ_self _) (.none _)
      have hskip := hblanks.skipBlank_of_stops (Text.stops_cons.2 hblank)
      simp only [Expression.valueList, Expression.mark, if_true, bind, Except.bind, hskip]
      split
      · rename_i heq
        exact absurd (List.cons.inj heq).1 hparen
      · rw [hread]
        simp only [hend, Expression.skipBlank_of_stops hmark, if_true]
        rfl

end Values

section Comparison

variable {op : Operator} {v : Value}

theorem ListText.stops {vs : List Value} (h : ListText vs cs rest) : Stops isBlank cs := by
  cases h with
  | empty => exact Text.stops_cons.2 (by decide)
  | items => exact Text.stops_cons.2 (by decide)

theorem operand_iff : Expression.operand op cs = .ok (v, rest) ↔ OperandText op v cs rest := by
  constructor
  · intro h
    unfold Expression.operand at h
    split at h
    · rename_i hnull
      cases h
      cases op with
      | nullness negated => exact .none
      | _ => cases hnull
    · rename_i hnull
      split at h
      · rename_i hlist
        obtain ⟨vs, rfl, htext⟩ := valueList_iff.1 h
        cases op with
        | membership negated => exact .list (blanks_skipBlank cs) htext
        | _ => cases hlist
      · rename_i hlist
        exact .value (eq_false_of_ne_true hnull) (eq_false_of_ne_true hlist) (blanks_skipBlank cs)
          (value_iff.1 h)
  · intro h
    cases h with
    | none => rfl
    | list hblanks hlist =>
      have hskip := hblanks.skipBlank_of_stops hlist.stops
      simp only [Expression.operand, Operator.isNullness, Operator.isMembership, hskip,
        valueList_iff.2 ⟨_, rfl, hlist⟩, Bool.false_eq_true, if_false, if_true]
    | value hnull hlist hblanks hvalue =>
      obtain ⟨c, more, rfl, hblank, -⟩ := hvalue.start
      have hskip := hblanks.skipBlank_of_stops (Text.stops_cons.2 hblank)
      simp only [Expression.operand, hnull, hlist, Bool.false_eq_true, if_false, hskip,
        value_iff.2 hvalue]

/-- The reader of comparisons follows the grammar. -/
theorem comparison_iff {p : Expression.Phrase} : Expression.comparison cs = .ok (p, rest) ↔
    ∃ field op v, p = .comparison field op v ∧ ComparisonText field op v cs rest := by
  constructor
  · intro h
    obtain ⟨⟨field, a⟩, hpath, h⟩ := ok_of_bind h
    obtain ⟨⟨op, b⟩, hop, h⟩ := ok_of_bind h
    obtain ⟨⟨v, c⟩, hv, h⟩ := ok_of_bind h
    cases h
    exact ⟨field, op, v, rfl, .parts (path_iff.1 hpath) (blanks_skipBlank a) (operator_iff.1 hop)
      (operand_iff.1 hv)⟩
  · rintro ⟨field, op, v, rfl, hpath, hblanks, hop, hv⟩
    rw [Expression.comparison, path_iff.2 hpath]
    simp only [bind, Except.bind, hblanks.skipBlank_of_stops hop.stops, operator_iff.2 hop,
      operand_iff.2 hv]
    rfl

/-- What a comparison starts with. -/
theorem ComparisonText.start {field : String} (h : ComparisonText field op v cs rest) :
    ∃ c more, cs = c :: more ∧ isPathChar c = true := by
  obtain ⟨hpath, -, -, -⟩ := h
  exact hpath.run.start

end Comparison

end Grammar
end Sieve
