import Sieve.Sql.Token

/-!
# Sieve.Proofs.Sql.Grouping

Parentheses group. Tokens with matching parentheses can be passed over as a whole by whoever looks
for what stands outside parentheses (`splitOutside_group`, `outer_append`) or for the parenthesis
that closes (`closing_append`).
-/

namespace Sieve
namespace Sql

def openParen : Token := .mark "("

def closeParen : Token := .mark ")"

/-- How deep inside parentheses the next token stands. -/
def depthAfter (depth : Nat) (t : Token) : Nat :=
  if t = openParen then depth + 1 else if t = closeParen then depth - 1 else depth

/-- The tokens outside parentheses. -/
def outer : Nat → List Token → List Token
  | _, [] => []
  | depth, t :: ts =>
    if depth = 0 ∧ t ≠ openParen then t :: outer (depthAfter depth t) ts
    else outer (depthAfter depth t) ts

/-- The pieces between the separators outside parentheses. -/
def splitOutside (separates : Token → Bool) : Nat → List Token → List (List Token)
  | _, [] => [[]]
  | depth, t :: ts =>
    if depth = 0 ∧ separates t = true then [] :: splitOutside separates depth ts
    else (splitOutside separates (depthAfter depth t) ts).modifyHead (t :: ·)

/-- The tokens up to the parenthesis that closes, and those behind it. -/
def closing : Nat → List Token → Option (List Token × List Token)
  | _, [] => none
  | depth, t :: ts =>
    if depth = 0 ∧ t = closeParen then some ([], ts)
    else (closing (depthAfter depth t) ts).map fun (inner, after) => (t :: inner, after)

/-- What stands in parentheses, if it is all there is. -/
def enclosed? (ts : List Token) : Option (List Token) :=
  match ts with
  | [] => none
  | t :: rest =>
    if t = openParen then
      match closing 0 rest with
      | some (inner, []) => some inner
      | _ => none
    else none

/-- Every parenthesis is matched. -/
inductive Balanced : List Token → Prop where
  | nil : Balanced []
  | token {t : Token} (hopen : t ≠ openParen) (hclose : t ≠ closeParen) : Balanced [t]
  | append {a b : List Token} (ha : Balanced a) (hb : Balanced b) : Balanced (a ++ b)
  | parens {a : List Token} (ha : Balanced a) : Balanced (inParens a)

section Balanced

variable {a b : List Token}

theorem depthAfter_plain {t : Token} (hopen : t ≠ openParen) (hclose : t ≠ closeParen)
    (depth : Nat) : depthAfter depth t = depth := by
  simp only [depthAfter, if_neg hopen, if_neg hclose]

theorem depthAfter_open (depth : Nat) : depthAfter depth openParen = depth + 1 := rfl

theorem depthAfter_close (depth : Nat) : depthAfter (depth + 1) closeParen = depth := rfl

theorem inParens_append (rest : List Token) :
    inParens a ++ rest = openParen :: (a ++ closeParen :: rest) := by
  simp [inParens, openParen, closeParen]

theorem Balanced.cons {t : Token} (hopen : t ≠ openParen) (hclose : t ≠ closeParen)
    (h : Balanced a) : Balanced (t :: a) :=
  .append (.token hopen hclose) h

/-- Inside parentheses nothing is outside. -/
theorem outer_inside (h : Balanced a) (depth : Nat) (rest : List Token) :
    outer (depth + 1) (a ++ rest) = outer (depth + 1) rest := by
  induction h generalizing depth rest with
  | nil => rfl
  | token hopen hclose =>
    rw [List.singleton_append, outer, depthAfter_plain hopen hclose]
    simp
  | append ha hb iha ihb => rw [List.append_assoc, iha, ihb]
  | parens ha ih =>
    rw [inParens_append, outer, depthAfter_open, ih, outer, depthAfter_close]
    simp

theorem outer_group (h : Balanced a) (rest : List Token) :
    outer 0 (inParens a ++ rest) = outer 0 rest := by
  rw [inParens_append, outer, depthAfter_open, outer_inside h, outer, depthAfter_close]
  simp

theorem outer_append (h : Balanced a) (rest : List Token) :
    outer 0 (a ++ rest) = outer 0 a ++ outer 0 rest := by
  induction h generalizing rest with
  | nil => rfl
  | token hopen hclose =>
    rw [List.singleton_append, outer, outer, outer, depthAfter_plain hopen hclose]
    simp [hopen]
  | append ha hb iha ihb => rw [List.append_assoc, iha, ihb, iha, List.append_assoc]
  | parens ha ih =>
    have hnone := outer_group ha []
    rw [List.append_nil] at hnone
    rw [outer_group ha, hnone]
    rfl

theorem outer_inParens (h : Balanced a) : outer 0 (inParens a) = [] := by
  have hnone := outer_group h []
  rw [List.append_nil] at hnone
  exact hnone

/-- Inside parentheses nothing is cut. -/
theorem splitOutside_inside (h : Balanced a) (separates : Token → Bool) (depth : Nat)
    (rest : List Token) :
    splitOutside separates (depth + 1) (a ++ rest) =
      (splitOutside separates (depth + 1) rest).modifyHead (a ++ ·) := by
  induction h generalizing depth rest with
  | nil =>
    rw [List.nil_append]
    cases splitOutside separates (depth + 1) rest <;> rfl
  | token hopen hclose =>
    rw [List.singleton_append, splitOutside, depthAfter_plain hopen hclose]
    simp
  | append ha hb iha ihb =>
    rw [List.append_assoc, iha, ihb, List.modifyHead_modifyHead]
    simp only [Function.comp_def, List.append_assoc]
  | parens ha ih =>
    rw [inParens_append, splitOutside, depthAfter_open, ih (depth + 1) (closeParen :: rest),
      splitOutside, depthAfter_close]
    simp [Function.comp_def, inParens_append]

theorem splitOutside_group (h : Balanced a) {separates : Token → Bool}
    (hopen : separates openParen = false) (rest : List Token) :
    splitOutside separates 0 (inParens a ++ rest) =
      (splitOutside separates 0 rest).modifyHead (inParens a ++ ·) := by
  rw [inParens_append, splitOutside, depthAfter_open, splitOutside_inside h, splitOutside,
    depthAfter_close]
  simp [hopen, Function.comp_def, inParens_append]

theorem splitOutside_separator {separates : Token → Bool} {t : Token} (h : separates t = true)
    (rest : List Token) :
    splitOutside separates 0 (t :: rest) = [] :: splitOutside separates 0 rest := by
  rw [splitOutside]
  simp [h]

/-- Without a separator outside parentheses nothing is cut. -/
theorem splitOutside_plain (h : Balanced a) {separates : Token → Bool}
    (hopen : separates openParen = false) (hnone : ∀ t ∈ outer 0 a, separates t = false)
    (rest : List Token) :
    splitOutside separates 0 (a ++ rest) =
      (splitOutside separates 0 rest).modifyHead (a ++ ·) := by
  induction h generalizing rest with
  | nil =>
    rw [List.nil_append]
    cases splitOutside separates 0 rest <;> rfl
  | @token t ht hclose =>
    have hplain : separates t = false := by
      refine hnone t ?_
      rw [outer]
      simp [ht]
    rw [List.singleton_append, splitOutside, depthAfter_plain ht hclose]
    simp [hplain]
  | append ha hb iha ihb =>
    rw [outer_append ha] at hnone
    have hfirst := iha fun t ht => hnone t (List.mem_append_left _ ht)
    have hsecond := ihb fun t ht => hnone t (List.mem_append_right _ ht)
    rw [List.append_assoc, hfirst, hsecond, List.modifyHead_modifyHead]
    simp only [Function.comp_def, List.append_assoc]
  | parens ha ih => exact splitOutside_group ha hopen rest

theorem closing_inside (h : Balanced a) (depth : Nat) (rest : List Token) :
    closing depth (a ++ rest) =
      (closing depth rest).map fun (inner, after) => (a ++ inner, after) := by
  induction h generalizing depth rest with
  | nil =>
    rw [List.nil_append]
    cases closing depth rest <;> rfl
  | token hopen hclose =>
    rw [List.singleton_append, closing, depthAfter_plain hopen hclose]
    simp [hclose]
  | append ha hb iha ihb =>
    rw [List.append_assoc, iha, ihb, Option.map_map]
    simp only [Function.comp_def, List.append_assoc]
  | parens ha ih =>
    have hne : openParen ≠ closeParen := by decide
    rw [inParens_append, closing, depthAfter_open, ih, closing, depthAfter_close]
    simp [hne, Function.comp_def, inParens_append]

theorem enclosed?_inParens (h : Balanced a) : enclosed? (inParens a) = some a := by
  have hclose : closing 0 (a ++ [closeParen]) = some (a, []) := by
    rw [closing_inside h, closing]
    simp
  have hchars : inParens a = openParen :: (a ++ [closeParen]) := rfl
  rw [hchars, enclosed?, if_pos rfl, hclose]

end Balanced

end Sql
end Sieve
