import Mathlib
import Sieve.Matching
import Sieve.Proofs.Sql.Evaluation
import Sieve.Sql.Compile

/-!
# Sieve.Proofs.Sql.Like

The patterns that textual tests are compiled to. A pattern is read back as the characters of its
text with any text before, behind or around them, whatever characters these are: `parts?_patternOf`.
So a text fits it exactly when the test holds: `likeTruth_patternOf`, `decides_like`.
-/

namespace Sieve
namespace Sql

namespace Pattern

/-- The parts of a text that stands for itself. -/
def verbatim (cs : List Char) : List Part := cs.map .exactly

theorem parts?_of_plain {c : Char} (h : isPatternChar c = false) (cs : List Char) :
    parts? (c :: cs) = (parts? cs).map (.exactly c :: ·) := by
  simp only [isPatternChar, Bool.or_eq_false_iff, beq_eq_false_iff_ne] at h
  obtain ⟨⟨hescape, hany⟩, hone⟩ := h
  rw [parts?]
  · rintro rfl -
    exact hescape rfl
  · rintro _ _ rfl
    exact absurd rfl hescape
  · exact hany
  · exact hone

theorem parts?_escaped (cs rest : List Char) :
    parts? (cs.flatMap escapedChar ++ rest) = (parts? rest).map (verbatim cs ++ ·) := by
  induction cs with
  | nil => simp [verbatim]
  | cons c cs ih =>
    have hrest : parts? (escapedChar c ++ (cs.flatMap escapedChar ++ rest)) =
        (parts? (cs.flatMap escapedChar ++ rest)).map (.exactly c :: ·) := by
      unfold escapedChar
      cases hc : isPatternChar c with
      | true => rfl
      | false => exact parts?_of_plain hc _
    rw [List.flatMap_cons, List.append_assoc, hrest, ih, Option.map_map]
    rfl

section Fits

variable {parts : List Part} {cs s : List Char}

theorem fits_nil : fits [] cs = true ↔ cs = [] := by
  rw [fits, List.isEmpty_iff]

theorem fits_any : fits (.any :: parts) cs = true ↔
    ∃ before after, cs = before ++ after ∧ fits parts after = true := by
  rw [fits, List.any_eq_true]
  constructor
  · rintro ⟨after, hafter, hfits⟩
    obtain ⟨before, hcs⟩ := (List.mem_tails _ _).1 hafter
    exact ⟨before, after, hcs.symm, hfits⟩
  · rintro ⟨before, after, hcs, hfits⟩
    exact ⟨after, (List.mem_tails _ _).2 ⟨before, hcs.symm⟩, hfits⟩

theorem fits_verbatim : fits (verbatim s ++ parts) cs = true ↔
    ∃ after, cs = s ++ after ∧ fits parts after = true := by
  induction s generalizing cs with
  | nil => simp [verbatim]
  | cons c s ih =>
    have hcons : verbatim (c :: s) ++ parts = .exactly c :: (verbatim s ++ parts) := rfl
    rw [hcons]
    cases cs with
    | nil => simp [fits]
    | cons d cs =>
      rw [fits, Bool.and_eq_true, beq_iff_eq, ih]
      constructor
      · rintro ⟨rfl, after, rfl, hfits⟩
        exact ⟨after, rfl, hfits⟩
      · rintro ⟨after, hcs, hfits⟩
        rw [List.cons_append, List.cons.injEq] at hcs
        exact ⟨hcs.1.symm, after, hcs.2, hfits⟩

end Fits

end Pattern

open Pattern

/-- The parts of the pattern of a test. -/
def partsOf (test : TextTest) (s : Scalar) : List Part :=
  let text := verbatim s.asText.toList
  match test with
  | .startsWith => text ++ [.any]
  | .endsWith => .any :: text
  | _ => .any :: (text ++ [.any])

/-- A pattern is never left open by its text. -/
theorem parts?_patternOf (test : TextTest) (s : Scalar) :
    parts? (patternOf test s).toList = some (partsOf test s) := by
  have hany : parts? ['%'] = some [.any] := rfl
  have hescaped : (likeEscaped s.asText).toList = s.asText.toList.flatMap escapedChar := by
    rw [likeEscaped, String.toList_ofList]
  have hbehind : parts? (s.asText.toList.flatMap escapedChar ++ ['%']) =
      some (verbatim s.asText.toList ++ [.any]) := by
    rw [parts?_escaped, hany, Option.map_some]
  have halone : parts? (s.asText.toList.flatMap escapedChar) =
      some (verbatim s.asText.toList) := by
    have h := parts?_escaped s.asText.toList []
    rwa [List.append_nil, parts?, Option.map_some, List.append_nil] at h
  have hbefore : ∀ cs, parts? ('%' :: cs) = (parts? cs).map (.any :: ·) := fun _ => rfl
  have hpercent : "%".toList = ['%'] := rfl
  cases test <;>
    simp only [patternOf, String.toList_append, hescaped, hpercent, List.cons_append,
      List.nil_append, hbefore, hbehind, halone, Option.map_some, partsOf]

/-- A text fits the pattern of a test exactly when the test, negation aside, holds. -/
theorem fits_partsOf (test : TextTest) (actual expected : Scalar) :
    (fits (partsOf test expected) actual.asText.toList != (test == .notLike)) =
      test.holds actual expected := by
  have hsome : fits [.any] = fun _ => true := by
    funext cs
    exact fits_any.2 ⟨cs, [], by simp, rfl⟩
  have hcontains : fits (.any :: (verbatim expected.asText.toList ++ [.any]))
      actual.asText.toList = actual.contains expected := by
    rw [Bool.eq_iff_iff, fits_any, Scalar.contains, Text.contains_iff]
    simp only [fits_verbatim, hsome, and_true]
    constructor
    · rintro ⟨before, _, htext, after, rfl⟩
      exact ⟨before, after, by rw [htext, List.append_assoc]⟩
    · rintro ⟨before, after, htext⟩
      exact ⟨before, _, by rw [htext, List.append_assoc], after, rfl⟩
  cases test with
  | startsWith =>
    have hstarts : fits (verbatim expected.asText.toList ++ [.any]) actual.asText.toList =
        actual.startsWith expected := by
      rw [Bool.eq_iff_iff, fits_verbatim, Scalar.startsWith, Text.startsWith_iff]
      simp only [hsome, and_true]
    exact (Bool.bne_false _).trans hstarts
  | endsWith =>
    have halone : ∀ cs, fits (verbatim expected.asText.toList) cs = true ↔
        cs = expected.asText.toList := fun cs => by
      have h : fits (verbatim expected.asText.toList ++ []) cs = true ↔
          ∃ after, cs = expected.asText.toList ++ after ∧ fits [] after = true := fits_verbatim
      simpa [fits_nil] using h
    have hends : fits (.any :: verbatim expected.asText.toList) actual.asText.toList =
        actual.endsWith expected := by
      rw [Bool.eq_iff_iff, fits_any, Scalar.endsWith, Text.endsWith_iff]
      simp only [halone, exists_eq_right]
    exact (Bool.bne_false _).trans hends
  | notLike =>
    have hnot : (fits (.any :: (verbatim expected.asText.toList ++ [.any]))
        actual.asText.toList != true) = !actual.contains expected := by
      rw [Bool.bne_true, hcontains]
    exact hnot
  | like => exact (Bool.bne_false _).trans hcontains
  | contains => exact (Bool.bne_false _).trans hcontains

/-- A text is tested for its pattern as the matcher tests it. -/
theorem likeTruth_patternOf (test : TextTest) (actual expected : Scalar) :
    likeTruth (test == .notLike) actual.asText (patternOf test expected) =
      .ok (some (test.holds actual expected)) := by
  rw [likeTruth, parts?_patternOf, ← fits_partsOf]

/-- The text of a scalar is tested for the pattern as the matcher tests the scalar; nothing is known
of NULL, negated or not. -/
theorem decides_like {env : Env} {e pattern : Expr} {found : Option Scalar} {test : TextTest}
    {expected : Scalar} (he : eval env e = .ok (found.map fun s => .text s.asText))
    (hpattern : eval env pattern = .ok (some (.text (patternOf test expected)))) :
    Decides env (.like (test == .notLike) e pattern)
      (found.map fun s => test.holds s expected) := by
  unfold Decides
  rw [eval, he, hpattern]
  cases found with
  | none => rfl
  | some s =>
    simp only [Option.map_some, bind, Except.bind, textOf?, likeTruth_patternOf]
    rfl

theorem columnTest_textual (column : String) (test : TextTest) (o : Operand) (first : Nat) :
    columnTest column (.textual test o) first =
      .like (test == .notLike) (.cast (.column column) .text) (textParam first) := by
  cases test <;> rfl

theorem documentArguments_textual {test : TextTest} (h : test ≠ .contains) (o : Operand) :
    documentArguments (.textual test o) = [.text (patternOf test o.scalar)] := by
  cases test <;> first | rfl | exact absurd rfl h

theorem documentTest_textual {test : TextTest} (h : test ≠ .contains) (root : Expr)
    (path : List String) (o : Operand) (first : Nat) :
    documentTest root path (.textual test o) first =
      .like (test == .notLike) (textAt root path) (textParam first) := by
  cases test <;> first | rfl | exact absurd rfl h

end Sql
end Sieve
