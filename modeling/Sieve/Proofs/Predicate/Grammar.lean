import Sieve.Predicate.Expression
import Sieve.Proofs.Predicate.Collapse
import Sieve.Proofs.Predicate.Reading

/-!
# Sieve.Proofs.Predicate.Grammar

What the reader of expressions can give: paths of the characters that it takes for paths, in every
comparison of the phrase and so in every leaf of the predicate (`inGrammar_of_parse`).
-/

namespace Sieve
namespace Expression

mutual

/-- The paths of the comparisons, from left to right. -/
def Phrase.fields : Phrase → List String
  | .all => []
  | .comparison field _ _ => [field]
  | .chain first more => first.fields ++ fieldsAfter more

def fieldsAfter : List (Conjunction × Phrase) → List String
  | [] => []
  | (_, p) :: more => p.fields ++ fieldsAfter more

end

section Fields

variable {cs rest : List Char}

theorem inGrammar_of_path {field : String} (h : path cs = .ok (field, rest)) :
    InGrammar field := by
  obtain ⟨⟨taken, after⟩, hrun, h⟩ := ok_of_bind h
  have htaken : taken = cs.takeWhile isPathChar := by
    unfold run at hrun
    split at hrun
    · cases hrun
    · cases hrun
      rfl
  cases taken with
  | nil => cases h
  | cons c more =>
    have hdigit : c.isDigit = false := by
      cases hc : c.isDigit with
      | false => rfl
      | true => simp [hc] at h
    simp only [hdigit, Bool.false_eq_true, if_false] at h
    cases h
    refine ⟨fun d hd => ?_, fun d hd => ?_⟩
    · rw [String.toList_ofList, htaken] at hd
      exact List.all_eq_true.1 List.all_takeWhile d hd
    · rw [String.toList_ofList, List.head?_cons, Option.mem_some_iff] at hd
      rw [← hd, hdigit]

theorem fields_of_comparison {p : Phrase} (h : comparison cs = .ok (p, rest)) :
    ∀ f ∈ p.fields, InGrammar f := by
  obtain ⟨⟨field, afterPath⟩, hpath, h⟩ := ok_of_bind h
  obtain ⟨⟨op, afterOperator⟩, -, h⟩ := ok_of_bind h
  obtain ⟨⟨v, afterOperand⟩, -, h⟩ := ok_of_bind h
  cases h
  intro f hf
  rw [Phrase.fields, List.mem_singleton] at hf
  rw [hf]
  exact inGrammar_of_path hpath

end Fields

/-- What the readers of one level of fuel give. -/
structure ReadsGrammar (fuel : Nat) : Prop where
  sequence : ∀ cs p rest, sequence fuel cs = .ok (p, rest) → ∀ f ∈ p.fields, InGrammar f
  term : ∀ cs p rest, term fuel cs = .ok (p, rest) → ∀ f ∈ p.fields, InGrammar f
  joined : ∀ cs more rest, joined fuel cs = .ok (more, rest) →
    ∀ f ∈ fieldsAfter more, InGrammar f

/-- By induction on the fuel, which every reader hands on smaller. -/
theorem readsGrammar (fuel : Nat) : ReadsGrammar fuel := by
  induction fuel with
  | zero =>
    refine ⟨fun cs p rest h => ?_, fun cs p rest h => ?_, fun cs more rest h => ?_⟩
    · cases h
    · cases h
    · cases h
  | succ fuel ih =>
    refine ⟨fun cs p rest h => ?_, fun cs p rest h => ?_, fun cs more rest h => ?_⟩
    · rw [Expression.sequence] at h
      obtain ⟨⟨first, afterFirst⟩, hfirst, h⟩ := ok_of_bind h
      obtain ⟨⟨more, afterMore⟩, hmore, h⟩ := ok_of_bind h
      cases h
      intro f hf
      rw [Phrase.fields, List.mem_append] at hf
      rcases hf with hf | hf
      · exact ih.term _ _ _ hfirst f hf
      · exact ih.joined _ _ _ hmore f hf
    · rw [Expression.term] at h
      split at h
      · obtain ⟨⟨inner, afterInner⟩, hinner, h⟩ := ok_of_bind h
        obtain ⟨⟨done, afterClose⟩, -, h⟩ := ok_of_bind h
        cases h
        exact ih.sequence _ _ _ hinner
      · cases h
        intro f hf
        cases hf
      · exact fields_of_comparison h
    · rw [Expression.joined] at h
      split at h
      · cases h
        intro f hf
        cases hf
      · obtain ⟨⟨done, afterBlanks⟩, -, h⟩ := ok_of_bind h
        obtain ⟨⟨p, afterTerm⟩, hterm, h⟩ := ok_of_bind h
        obtain ⟨⟨rest', afterRest⟩, hrest, h⟩ := ok_of_bind h
        cases h
        intro f hf
        rw [fieldsAfter, List.mem_append] at hf
        rcases hf with hf | hf
        · exact ih.term _ _ _ hterm f hf
        · exact ih.joined _ _ _ hrest f hf

mutual

/-- A predicate has the paths of the phrase that it comes from. -/
theorem fields_lower : ∀ (p : Phrase) (q : Predicate), p.lower = .ok q → q.fields = p.fields
  | .all, q, h => by
    rw [Phrase.lower] at h
    cases h
    rfl
  | .comparison field op v, q, h => by
    rw [Phrase.lower, Predicate.make] at h
    split at h
    · cases h
    · rename_i path hpath
      split at h
      · cases h
        have htext : path.text = field := by
          unfold FieldPath.ofString? at hpath
          split at hpath
          · cases hpath
            rfl
          · cases hpath
        rw [Phrase.fields, ← htext]
        rfl
      · cases h
  | .chain first [], q, h => by
    rw [Phrase.lower] at h
    rw [Phrase.fields, fieldsAfter, List.append_nil]
    exact fields_lower first q h
  | .chain first ((c, p) :: more), q, h => by
    rw [Phrase.lower] at h
    split at h
    · obtain ⟨head, hhead, h⟩ := ok_of_bind h
      obtain ⟨second, hsecond, h⟩ := ok_of_bind h
      obtain ⟨tail, htail, h⟩ := ok_of_bind h
      cases h
      have hhead := fields_lower first head hhead
      have hsecond := fields_lower p second hsecond
      have htail := fields_lowerAll more tail htail
      rw [Predicate.fields] at hhead hsecond
      rw [Phrase.fields, fieldsAfter, ← hhead, ← hsecond, ← htail]
      simp only [Predicate.fields, Predicate.leaves, Predicate.leavesOf, List.map_append]
    · cases h

theorem fields_lowerAll : ∀ (more : List (Conjunction × Phrase)) (qs : List Predicate),
    lowerAll more = .ok qs → (Predicate.leavesOf qs).map (·.field.text) = fieldsAfter more
  | [], qs, h => by
    rw [lowerAll] at h
    cases h
    rfl
  | (c, p) :: more, qs, h => by
    rw [lowerAll] at h
    obtain ⟨head, hhead, h⟩ := ok_of_bind h
    obtain ⟨tail, htail, h⟩ := ok_of_bind h
    cases h
    have hhead := fields_lower p head hhead
    have htail := fields_lowerAll more tail htail
    rw [Predicate.fields] at hhead
    rw [fieldsAfter, ← hhead, ← htail, Predicate.leavesOf, List.map_append]

end

theorem inGrammar_of_phrase {s : String} {p : Phrase} (h : parse s = .ok p) :
    ∀ f ∈ p.fields, InGrammar f := by
  unfold parse at h
  simp only at h
  split at h
  · rename_i heq
    cases h
    exact (readsGrammar _).sequence _ _ _ heq
  · cases h
  · cases h

/-- Every path of a predicate that was read is in the grammar. -/
theorem inGrammar_of_parse {s : String} {q : Predicate} (h : Predicate.parse s = .ok q) :
    ∀ f ∈ q.fields, InGrammar f := by
  obtain ⟨p, hp, hq⟩ := ok_of_bind h
  rw [fields_lower p q hq]
  exact inGrammar_of_phrase hp

end Expression
end Sieve
