import Mathlib.Data.List.TakeWhile

/-!
# Sieve.Proofs.Text.Run

The longest run of characters of a class at the front of a text that something else stands behind,
which does not go on with the run.
-/

namespace Sieve
namespace Text

/-- The characters of a class do not go on in `rest`. -/
def Stops (p : Char → Bool) (rest : List Char) : Prop := ∀ c ∈ rest.head?, p c = false

theorem stops_nil (p : Char → Bool) : Stops p [] := fun _ h => by simp at h

theorem stops_cons {p : Char → Bool} {c : Char} {rest : List Char} :
    Stops p (c :: rest) ↔ p c = false := by
  simp [Stops]

theorem stops_dropWhile (p : Char → Bool) (cs : List Char) : Stops p (cs.dropWhile p) := by
  intro c hc
  have hnot := List.head?_dropWhile_not p cs
  rw [Option.mem_def.1 hc] at hnot
  exact hnot

section Append

variable {p : Char → Bool} {rest : List Char}

theorem takeWhile_append_of_stops (h : Stops p rest) (cs : List Char) :
    (cs ++ rest).takeWhile p = cs.takeWhile p := by
  induction cs with
  | nil =>
    cases rest with
    | nil => rfl
    | cons c rest => simp [stops_cons.1 h]
  | cons c cs ih => simp [List.takeWhile_cons, ih]

theorem dropWhile_append_of_stops (h : Stops p rest) (cs : List Char) :
    (cs ++ rest).dropWhile p = cs.dropWhile p ++ rest := by
  induction cs with
  | nil =>
    cases rest with
    | nil => rfl
    | cons c rest => simp [stops_cons.1 h]
  | cons c cs ih =>
    rw [List.cons_append, List.dropWhile_cons, List.dropWhile_cons]
    split
    · exact ih
    · rfl

theorem takeWhile_run {taken : List Char} (ht : ∀ c ∈ taken, p c = true) (hr : Stops p rest) :
    (taken ++ rest).takeWhile p = taken := by
  rw [takeWhile_append_of_stops hr, List.takeWhile_eq_self_iff.2 ht]

theorem dropWhile_run {taken : List Char} (ht : ∀ c ∈ taken, p c = true) (hr : Stops p rest) :
    (taken ++ rest).dropWhile p = rest := by
  rw [dropWhile_append_of_stops hr, List.dropWhile_eq_nil_iff.2 ht, List.nil_append]

end Append

end Text
end Sieve
