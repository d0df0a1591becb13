import Sieve.Proofs.Predicate.Comparisons

/-!
# Sieve.Proofs.Predicate.Recognition

The reader of expressions accepts what the grammar derives and nothing else (`parse_iff`). Both
directions rest on `comparison_iff`. What is read is derived by induction on the fuel. What is
derived is read by induction on the derivation: the fuel goes down by two at most for a character
that is taken, and a sequence is followed by a closing parenthesis or the end of the text, so that
the reader does not go on behind it.
-/

namespace Sieve
namespace Grammar

open Expression (isBlank isPathChar isWordChar ok_of_bind)
open Text (Stops)

variable {cs rest : List Char}

section Conjunctions

variable {c : Conjunction}

/-- The letters of a conjunction in lower case, as the reader looks for them. -/
def letters (c : Conjunction) : List Char := c.token.toList.map Char.toLower

theorem same_iff {taken : List Char} : Text.sameIgnoringCase (String.ofList taken) c.token = true ↔
    taken.map Char.toLower = letters c := by
  rw [Text.sameIgnoringCase_iff, Text.asciiLower, Text.asciiLower, String.toList_ofList]
  exact String.ofList_inj

theorem conjunctionText_iff : ConjunctionText c cs rest ↔
    Text.startsWith (cs.map Char.toLower) (letters c) = true ∧
      rest = cs.drop (letters c).length := by
  rw [Text.startsWith_iff]
  constructor
  · rintro ⟨taken, rfl, hsame⟩
    rw [← same_iff.1 hsame, List.length_map]
    exact ⟨⟨rest.map Char.toLower, List.map_append⟩, List.drop_left.symm⟩
  · rintro ⟨⟨after, hafter⟩, rfl⟩
    refine ⟨cs.take (letters c).length, (List.take_append_drop _ cs).symm, same_iff.2 ?_⟩
    rw [List.map_take, hafter, List.take_left]

theorem ConjunctionText.stops (h : ConjunctionText c cs rest) : Stops isBlank cs := by
  obtain ⟨⟨after, hafter⟩, -⟩ := (conjunctionText_iff.1 h).imp_left Text.startsWith_iff.1
  cases cs with
  | nil => exact Text.stops_nil _
  | cons d cs =>
    have hletter : d.toLower = 'a' ∨ d.toLower = 'o' := by
      cases c with
      | and => exact .inl (List.cons.inj hafter).1
      | or => exact .inr (List.cons.inj hafter).1
    refine Text.stops_cons.2 (eq_false_of_ne_true fun hblank => ?_)
    simp only [isBlank, Bool.or_eq_true, beq_iff_eq] at hblank
    rcases hblank with ((rfl | rfl) | rfl) | rfl <;> exact absurd hletter (by decide)

theorem ConjunctionText.length_le (h : ConjunctionText c cs rest) : rest.length ≤ cs.length := by
  rw [(conjunctionText_iff.1 h).2, List.length_drop]
  exact Nat.sub_le _ _

theorem conjunction?_iff : Expression.conjunction? cs = some (c, rest) ↔
    ∃ a, Gap cs a ∧ ConjunctionText c a rest := by
  constructor
  · intro h
    unfold Expression.conjunction? at h
    split at h
    · cases h
    · rename_i done a hblanks
      refine ⟨a, (blanks_iff.1 hblanks).1, ?_⟩
      split at h
      · rename_i hand
        cases h
        exact conjunctionText_iff.2 ⟨hand, rfl⟩
      · split at h
        · rename_i hor
          cases h
          exact conjunctionText_iff.2 ⟨hor, rfl⟩
        · cases h
  · rintro ⟨a, hgap, htext⟩
    obtain ⟨hstart, rfl⟩ := conjunctionText_iff.1 htext
    rw [Expression.conjunction?, blanks_iff.2 ⟨hgap, htext.stops⟩]
    cases c with
    | and => exact if_pos hstart
    | or =>
      have hand : ¬ Text.startsWith (a.map Char.toLower) ['a', 'n', 'd'] = true := by
        intro h
        obtain ⟨after, hafter⟩ := Text.startsWith_iff.1 h
        obtain ⟨other, hother⟩ := Text.startsWith_iff.1 hstart
        rw [hafter] at hother
        exact absurd (List.cons.inj hother).1 (by decide)
      exact (if_neg hand).trans (if_pos hstart)

/-- Nothing is joined to what a closing parenthesis stands behind. -/
theorem conjunction?_of_close (h : Blanks cs (')' :: rest)) : Expression.conjunction? cs = none := by
  have hmark : Stops isBlank (')' :: rest) := Text.stops_cons.2 (by decide)
  cases hfound : Expression.conjunction? cs with
  | none => rfl
  | some found =>
    obtain ⟨c, after⟩ := found
    obtain ⟨a, hgap, htext⟩ := conjunction?_iff.1 hfound
    have ha : a = ')' :: rest := by
      rw [← hgap.toBlanks.skipBlank_of_stops htext.stops, h.skipBlank_of_stops hmark]
    rw [ha, conjunctionText_iff] at htext
    obtain ⟨other, hother⟩ := Text.startsWith_iff.1 htext.1
    cases c <;> exact absurd (List.cons.inj hother).1 (by decide)

end Conjunctions

/-! ## What is read is derived -/

section Soundness

open Expression (Phrase sequence term joined lowerAll)

/-- What the readers of one level of fuel give is derived. -/
structure Derives (fuel : Nat) : Prop where
  sequence : ∀ cs ph rest p, sequence fuel cs = .ok (ph, rest) → ph.lower = .ok p →
    SequenceText p cs rest
  term : ∀ cs ph rest p, term fuel cs = .ok (ph, rest) → ph.lower = .ok p → TermText p cs rest
  joined : ∀ cs more rest c ps, joined fuel cs = .ok (more, rest) → (∀ m ∈ more, m.1 = c) →
    lowerAll more = .ok ps → MoreText c ps cs rest

/-- A chain of one phrase stands for what the phrase stands for, a longer one for a compound. -/
theorem lower_chain {first : Phrase} {more : List (Conjunction × Phrase)} {p : Predicate}
    (h : (Phrase.chain first more).lower = .ok p) :
    (more = [] ∧ first.lower = .ok p) ∨
      ∃ c head q qs, first.lower = .ok head ∧ lowerAll more = .ok (q :: qs) ∧
        (∀ m ∈ more, m.1 = c) ∧ p = .compound c (head :: q :: qs) := by
  cases more with
  | nil => exact .inl ⟨rfl, by rwa [Phrase.lower] at h⟩
  | cons m more =>
    obtain ⟨c, second⟩ := m
    rw [Phrase.lower] at h
    split at h
    · rename_i hall
      obtain ⟨head, hhead, h⟩ := ok_of_bind h
      obtain ⟨q, hq, h⟩ := ok_of_bind h
      obtain ⟨qs, hqs, h⟩ := ok_of_bind h
      cases h
      refine .inr ⟨c, head, q, qs, hhead, ?_, ?_, rfl⟩
      · rw [lowerAll, hq]
        simp only [bind, Except.bind, hqs]
        rfl
      · simpa using hall
    · cases h

/-- By induction on the fuel, which every reader hands on smaller. -/
theorem derives (fuel : Nat) : Derives fuel := by
  induction fuel with
  | zero =>
    refine ⟨fun cs ph rest p h => ?_, fun cs ph rest p h => ?_, fun cs more rest c ps h => ?_⟩
    · cases h
    · cases h
    · cases h
  | succ fuel ih =>
    refine ⟨fun cs ph rest p h hp => ?_, fun cs ph rest p h hp => ?_,
      fun cs more rest c ps h hc hps => ?_⟩
    · rw [Expression.sequence] at h
      obtain ⟨⟨first, a⟩, hfirst, h⟩ := ok_of_bind h
      obtain ⟨⟨more, b⟩, hmore, h⟩ := ok_of_bind h
      cases h
      obtain ⟨rfl, hp⟩ | ⟨c, head, q, qs, hhead, hqs, hall, rfl⟩ := lower_chain hp
      · have hnil : MoreText .and [] a rest :=
          ih.joined _ _ _ _ _ hmore (fun m hm => by cases hm) rfl
        cases hnil
        exact .single (ih.term _ _ _ _ hfirst hp)
      · exact .several (ih.term _ _ _ _ hfirst hhead) (ih.joined _ _ _ _ _ hmore hall hqs)
    · rw [Expression.term] at h
      have hblanks := blanks_skipBlank cs
      split at h
      · rename_i a hopen
        rw [hopen] at hblanks
        obtain ⟨⟨inner, b⟩, hinner, h⟩ := ok_of_bind h
        obtain ⟨⟨done, d⟩, hclose, h⟩ := ok_of_bind h
        cases h
        have hend : Blanks b (')' :: rest) := mark_iff.1 hclose ▸ blanks_skipBlank b
        exact .group hblanks (blanks_skipBlank a) (ih.sequence _ _ _ _ hinner hp) hend
      · rename_i a hstar
        rw [hstar] at hblanks
        cases h
        rw [Phrase.lower] at hp
        cases hp
        exact .all hblanks
      · obtain ⟨field, op, v, rfl, htext⟩ := comparison_iff.1 h
        rw [Phrase.lower] at hp
        exact .comparison hblanks htext hp
    · rw [Expression.joined] at h
      split at h
      · cases h
        cases hps
        exact .nil
      · rename_i d b hconjunction
        obtain ⟨a, hgap, htext⟩ := conjunction?_iff.1 hconjunction
        obtain ⟨⟨done, e⟩, hblanks, h⟩ := ok_of_bind h
        obtain ⟨⟨ph, f⟩, hterm, h⟩ := ok_of_bind h
        obtain ⟨⟨others, g⟩, hothers, h⟩ := ok_of_bind h
        cases h
        have hd : d = c := hc (d, ph) (List.mem_cons_self ..)
        rw [lowerAll] at hps
        obtain ⟨q, hq, hps⟩ := ok_of_bind hps
        obtain ⟨qs, hqs, hps⟩ := ok_of_bind hps
        cases hps
        rw [hd] at htext
        exact .cons hgap htext (blanks_iff.1 hblanks).1 (ih.term _ _ _ _ hterm hq)
          (ih.joined _ _ _ _ _ hothers (fun m hm => hc m (List.mem_cons_of_mem _ hm)) hqs)

end Soundness

/-! ## What is derived is read -/

section Lengths

variable {op : Operator} {v : Value}

theorem OperatorText.length_le (h : OperatorText op cs rest) : rest.length ≤ cs.length := by
  cases h with
  | symbol h =>
    rw [h.text, List.length_append]
    exact Nat.le_add_left _ _
  | name h => exact h.length_lt.le
  | isNull his hgap hnull =>
    have := his.length_lt
    have := hgap.length_lt
    have := hnull.length_lt
    omega
  | isNotNull his hgap hnot hgap' hnull =>
    have := his.length_lt
    have := hgap.length_lt
    have := hnot.length_lt
    have := hgap'.length_lt
    have := hnull.length_lt
    omega
  | notIn hnot hgap hin =>
    have := hnot.length_lt
    have := hgap.length_lt
    have := hin.length_lt
    omega
  | notLike hnot hgap hlike =>
    have := hnot.length_lt
    have := hgap.length_lt
    have := hlike.length_lt
    omega

theorem ListText.length_le {vs : List Value} (h : ListText vs cs rest) :
    rest.length ≤ cs.length := by
  cases h with
  | empty hclose =>
    have := hclose.length_le
    simp only [List.length_cons] at *
    omega
  | items hblanks hvalues hclose =>
    have := hblanks.length_le
    have := hvalues.length_lt
    have := hclose.length_le
    simp only [List.length_cons] at *
    omega

theorem OperandText.length_le (h : OperandText op v cs rest) : rest.length ≤ cs.length := by
  cases h with
  | none => exact Nat.le_refl _
  | list hblanks hlist => exact hlist.length_le.trans hblanks.length_le
  | value _ _ hblanks hvalue => exact hvalue.length_lt.le.trans hblanks.length_le

theorem ComparisonText.length_lt {field : String} (h : ComparisonText field op v cs rest) :
    rest.length < cs.length := by
  obtain ⟨hpath, hblanks, hop, hv⟩ := h
  have := hpath.run.length_lt
  have := hblanks.length_le
  have := hop.length_le
  have := hv.length_le
  omega

mutual

theorem SequenceText.length_lt : ∀ {p : Predicate} {cs rest : List Char}, SequenceText p cs rest →
    rest.length < cs.length
  | _, _, _, .single h => h.length_lt
  | _, _, _, .several h hmore => hmore.length_le.trans_lt h.length_lt

theorem TermText.length_lt : ∀ {p : Predicate} {cs rest : List Char}, TermText p cs rest →
    rest.length < cs.length
  | _, _, _, .group hopen hblanks h hclose => by
    have := hopen.length_le
    have := hblanks.length_le
    have := h.length_lt
    have := hclose.length_le
    simp only [List.length_cons] at *
    omega
  | _, _, _, .all hstar => hstar.length_le
  | _, _, _, .comparison hblanks h _ => h.length_lt.trans_le hblanks.length_le

theorem MoreText.length_le : ∀ {c : Conjunction} {ps : List Predicate} {cs rest : List Char},
    MoreText c ps cs rest → rest.length ≤ cs.length
  | _, _, _, _, .nil => Nat.le_refl _
  | _, _, _, _, .cons hgap hname hgap' h hmore => by
    have := hgap.length_lt
    have := hname.length_le
    have := hgap'.length_lt
    have := h.length_lt
    have := hmore.length_le
    omega

end

end Lengths

section Completeness

open Expression (Phrase sequence term joined lowerAll)

variable {before : List Char}

theorem lower_chain_several {first : Phrase} {more : List (Conjunction × Phrase)} {c : Conjunction}
    {head q : Predicate} {qs : List Predicate} (hfirst : first.lower = .ok head)
    (hmore : lowerAll more = .ok (q :: qs)) (hall : ∀ m ∈ more, m.1 = c) :
    (Phrase.chain first more).lower = .ok (.compound c (head :: q :: qs)) := by
  cases more with
  | nil => cases hmore
  | cons m others =>
    obtain ⟨d, second⟩ := m
    have hd : d = c := hall (d, second) (List.mem_cons_self ..)
    have hothers : (others.all fun m => decide (m.1 = d)) = true := by
      rw [hd, List.all_eq_true]
      exact fun m hm => decide_eq_true (hall m (List.mem_cons_of_mem _ hm))
    rw [lowerAll] at hmore
    obtain ⟨q', hq, hmore⟩ := ok_of_bind hmore
    obtain ⟨qs', hqs, hmore⟩ := ok_of_bind hmore
    cases hmore
    rw [Phrase.lower, if_pos hothers, hfirst]
    simp only [bind, Except.bind, hq, hqs, hd]
    rfl

/-- Blanks in front of a term make no difference. -/
theorem term_of_blanks (h : Blanks before cs) (fuel : Nat) :
    term (fuel + 1) before = term (fuel + 1) cs := by
  rw [Expression.term, Expression.term, h.skipBlank_eq]

theorem sequence_of_blanks (h : Blanks before cs) (fuel : Nat) :
    sequence (fuel + 2) before = sequence (fuel + 2) cs := by
  rw [Expression.sequence, Expression.sequence, term_of_blanks h]

mutual

theorem sequence_of_text : ∀ {p : Predicate} {cs rest : List Char}, SequenceText p cs rest →
    Expression.conjunction? rest = none → ∀ {fuel : Nat}, 2 * cs.length + 1 ≤ fuel →
    ∃ ph, sequence fuel cs = .ok (ph, rest) ∧ ph.lower = .ok p
  | p, cs, rest, .single h, hrest, fuel, hfuel => by
    obtain ⟨fuel, rfl⟩ : ∃ n, fuel = n + 2 := ⟨fuel - 2, by have := h.length_lt; omega⟩
    obtain ⟨ph, hterm, hp⟩ := term_of_text h (show 2 * cs.length ≤ fuel + 1 by omega)
    refine ⟨.chain ph [], ?_, by rwa [Phrase.lower]⟩
    rw [Expression.sequence, hterm]
    simp only [bind, Except.bind, Expression.joined, hrest]
    rfl
  | _, cs, rest, @SequenceText.several c p q ps _ a _ h hmore, hrest, fuel, hfuel => by
    obtain ⟨fuel, rfl⟩ : ∃ n, fuel = n + 1 := ⟨fuel - 1, by omega⟩
    obtain ⟨ph, hterm, hp⟩ := term_of_text h (show 2 * cs.length ≤ fuel by omega)
    have hshorter := h.length_lt
    obtain ⟨more, hjoined, hqs, hall⟩ := joined_of_text hmore hrest
      (show 2 * a.length + 1 ≤ fuel by omega)
    refine ⟨.chain ph more, ?_, ?_⟩
    · rw [Expression.sequence, hterm]
      simp only [bind, Except.bind, hjoined]
      rfl
    · exact lower_chain_several hp hqs hall

theorem term_of_text : ∀ {p : Predicate} {cs rest : List Char}, TermText p cs rest →
    ∀ {fuel : Nat}, 2 * cs.length ≤ fuel → ∃ ph, term fuel cs = .ok (ph, rest) ∧ ph.lower = .ok p
  | p, cs, rest, @TermText.group _ _ a b c _ hopen hblanks h hclose, fuel, hfuel => by
    have hinside := h.length_lt
    have hlength : b.length + 1 ≤ cs.length :=
      (Nat.succ_le_succ hblanks.length_le).trans hopen.length_le
    obtain ⟨fuel, rfl⟩ : ∃ n, fuel = n + 3 := ⟨fuel - 3, by omega⟩
    obtain ⟨ph, hsequence, hp⟩ := sequence_of_text h (conjunction?_of_close hclose)
      (show 2 * b.length + 1 ≤ fuel + 2 by omega)
    rw [sequence_of_blanks (blanks_skipBlank b), ← hblanks.skipBlank_eq] at hsequence
    have hstart : Expression.skipBlank cs = '(' :: a :=
      hopen.skipBlank_of_stops (Text.stops_cons.2 (by decide))
    have hend : Expression.skipBlank c = ')' :: rest :=
      hclose.skipBlank_of_stops (Text.stops_cons.2 (by decide))
    refine ⟨ph, ?_, hp⟩
    rw [Expression.term, hstart]
    simp only [bind, Except.bind, hsequence, mark_iff.2 hend]
    rfl
  | _, cs, rest, .all hstar, fuel, hfuel => by
    have hlength := hstar.length_le
    rw [List.length_cons] at hlength
    obtain ⟨fuel, rfl⟩ : ∃ n, fuel = n + 1 := ⟨fuel - 1, by omega⟩
    have hstart : Expression.skipBlank cs = '*' :: rest :=
      hstar.skipBlank_of_stops (Text.stops_cons.2 (by decide))
    refine ⟨.all, ?_, by rw [Phrase.lower]⟩
    rw [Expression.term, hstart]
    rfl
  | p, cs, rest, @TermText.comparison field op v _ _ _ _ hblanks h hmake, fuel, hfuel => by
    have hlength := h.length_lt.trans_le hblanks.length_le
    obtain ⟨fuel, rfl⟩ : ∃ n, fuel = n + 1 := ⟨fuel - 1, by omega⟩
    obtain ⟨c, more, rfl, hc⟩ := h.start
    have hblank := Expression.isBlank_of_expression (Expression.isBlank_of_isPathChar hc)
    refine ⟨.comparison field op v, ?_, by rw [Phrase.lower, hmake]⟩
    rw [Expression.term, hblanks.skipBlank_of_stops (Text.stops_cons.2 hblank)]
    split
    · rename_i heq
      rw [(List.cons.inj heq).1] at hc
      exact absurd hc (by decide)
    · rename_i heq
      rw [(List.cons.inj heq).1] at hc
      exact absurd hc (by decide)
    · exact comparison_iff.2 ⟨_, _, _, rfl, h⟩

theorem joined_of_text : ∀ {c : Conjunction} {ps : List Predicate} {cs rest : List Char},
    MoreText c ps cs rest → Expression.conjunction? rest = none → ∀ {fuel : Nat},
    2 * cs.length + 1 ≤ fuel → ∃ more, joined fuel cs = .ok (more, rest) ∧
      lowerAll more = .ok ps ∧ ∀ m ∈ more, m.1 = c
  | c, _, cs, _, .nil, hrest, fuel, hfuel => by
    obtain ⟨fuel, rfl⟩ : ∃ n, fuel = n + 1 := ⟨fuel - 1, by omega⟩
    refine ⟨[], ?_, rfl, fun m hm => by cases hm⟩
    rw [Expression.joined, hrest]
  | c, _, cs, rest, @MoreText.cons _ p ps _ a b d e _ hgap hname hgap' h hmore, hrest, fuel,
      hfuel => by
    have ha := hgap.length_lt
    have hb := hname.length_le
    have hd := hgap'.length_lt
    have he := h.length_lt
    obtain ⟨fuel, rfl⟩ : ∃ n, fuel = n + 2 := ⟨fuel - 2, by omega⟩
    obtain ⟨ph, hterm, hp⟩ := term_of_text h (show 2 * d.length ≤ fuel + 1 by omega)
    obtain ⟨more, hjoined, hqs, hall⟩ := joined_of_text hmore hrest
      (show 2 * e.length + 1 ≤ fuel + 1 by omega)
    rw [term_of_blanks (blanks_skipBlank d)] at hterm
    refine ⟨(c, ph) :: more, ?_, ?_, ?_⟩
    · rw [Expression.joined, conjunction?_iff.2 ⟨a, hgap, hname⟩]
      simp only [bind, Except.bind, hgap'.blanks_eq, hterm, hjoined]
      rfl
    · rw [lowerAll, hp]
      simp only [bind, Except.bind, hqs]
      rfl
    · intro m hm
      rcases List.mem_cons.1 hm with rfl | hm
      · rfl
      · exact hall m hm

end

end Completeness

theorem parse_eq_ok_iff {s : String} {ph : Expression.Phrase} : Expression.parse s = .ok ph ↔
    Expression.sequence (2 * (Text.trim s).toList.length + 2) (Text.trim s).toList =
      .ok (ph, []) := by
  rw [Text.trim, String.toList_ofList]
  unfold Expression.parse
  dsimp only
  split
  · rename_i heq
    rw [heq]
    simp
  · rename_i hne heq
    rw [heq]
    constructor
    · intro h
      cases h
    · intro h
      cases h
      exact absurd rfl hne
  · rename_i heq
    rw [heq]
    constructor
    · intro h
      cases h
    · intro h
      cases h

theorem derives_of_parse {s : String} {p : Predicate} (h : Predicate.parse s = .ok p) :
    SequenceText p (Text.trim s).toList [] := by
  obtain ⟨ph, hph, hp⟩ := ok_of_bind h
  exact (derives _).sequence _ _ _ _ (parse_eq_ok_iff.1 hph) hp

theorem parse_of_derives {s : String} {p : Predicate}
    (h : SequenceText p (Text.trim s).toList []) : Predicate.parse s = .ok p := by
  obtain ⟨ph, hph, hp⟩ := sequence_of_text h rfl (Nat.le_succ _)
  rw [Predicate.parse, parse_eq_ok_iff.2 hph]
  exact hp

/-- A text is read as a predicate just when the grammar derives it, blanks around it aside, and it
derives the text as one predicate at most. -/
theorem parse_iff (s : String) :
    (∀ p, Predicate.parse s = .ok p ↔ SequenceText p (Text.trim s).toList []) ∧
      ∀ p q, SequenceText p (Text.trim s).toList [] → SequenceText q (Text.trim s).toList [] →
        p = q := by
  refine ⟨fun p => ⟨derives_of_parse, parse_of_derives⟩, fun p q hp hq => ?_⟩
  exact Except.ok.inj ((parse_of_derives hp).symm.trans (parse_of_derives hq))

end Grammar
end Sieve
