/-!
# Sieve.Text.Search

Parts of texts: where a text starts, ends or holds another, and texts cut at a character.

* `contains_iff`, `startsWith_iff`, `endsWith_iff` say what the three tests decide.
* `join_split`: the pieces of a cut text, joined again, are the text.
-/

namespace Sieve
namespace Text

def startsWith (text part : List Char) : Bool := part.isPrefixOf text

def endsWith (text part : List Char) : Bool := part.isSuffixOf text

/-- `part` stands somewhere in `text`. -/
def contains (text part : List Char) : Bool :=
  startsWith text part ||
    match text with
    | [] => false
    | _ :: rest => contains rest part

theorem startsWith_iff {text part : List Char} :
    startsWith text part = true ↔ ∃ after, text = part ++ after := by
  rw [startsWith, List.isPrefixOf_iff_prefix]
  exact ⟨fun ⟨t, h⟩ => ⟨t, h.symm⟩, fun ⟨t, h⟩ => ⟨t, h.symm⟩⟩

theorem endsWith_iff {text part : List Char} :
    endsWith text part = true ↔ ∃ before, text = before ++ part := by
  rw [endsWith, List.isSuffixOf_iff_suffix]
  exact ⟨fun ⟨t, h⟩ => ⟨t, h.symm⟩, fun ⟨t, h⟩ => ⟨t, h.symm⟩⟩

theorem contains_iff {text part : List Char} :
    contains text part = true ↔ ∃ before after, text = before ++ part ++ after := by
  induction text with
  | nil =>
    simp [contains, startsWith_iff, List.append_eq_nil_iff]
  | cons c rest ih =>
    rw [contains, Bool.or_eq_true, startsWith_iff, ih]
    constructor
    · rintro (⟨after, h⟩ | ⟨before, after, h⟩)
      · exact ⟨[], after, by simpa using h⟩
      · exact ⟨c :: before, after, by simp [h]⟩
    · rintro ⟨before, after, h⟩
      cases before with
      | nil => exact .inl ⟨after, by simpa using h⟩
      | cons b before =>
        simp only [List.cons_append, List.cons.injEq] at h
        exact .inr ⟨before, after, h.2⟩

/-- The pieces between the occurrences of `mark`; one more than there are occurrences. -/
def split (mark : Char) : List Char → List (List Char)
  | [] => [[]]
  | c :: cs =>
    if c = mark then [] :: split mark cs
    else
      match split mark cs with
      | piece :: more => (c :: piece) :: more
      | [] => [[c]]

theorem split_ne_nil (mark : Char) (cs : List Char) : split mark cs ≠ [] := by
  cases cs with
  | nil => simp [split]
  | cons c cs =>
    rw [split]
    split
    · simp
    · split <;> simp

theorem join_split (mark : Char) (cs : List Char) : [mark].intercalate (split mark cs) = cs := by
  induction cs with
  | nil => simp [split, List.intercalate]
  | cons c cs ih =>
    rw [split]
    split
    · rename_i hc
      cases h : split mark cs with
      | nil => exact absurd h (split_ne_nil _ _)
      | cons piece more => rw [h] at ih; simp_all [List.intercalate]
    · cases h : split mark cs with
      | nil => exact absurd h (split_ne_nil _ _)
      | cons piece more =>
        rw [h] at ih
        cases more <;> simp_all [List.intercalate]

end Text
end Sieve
