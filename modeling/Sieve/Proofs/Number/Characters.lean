import Mathlib
import Sieve.Proofs.Number.Text

/-!
# Sieve.Proofs.Number.Characters

The characters that written numbers consist of. A layout that writes a point after whole numbers
leaves in every number a point or an exponent, by which it is told from an integer:
`Layout.write_marked`.
-/

namespace Sieve
namespace Layout

/-- A character of a written number. -/
def IsWritten (c : Char) : Prop := c.isDigit = true ∨ c = '.' ∨ c = 'e' ∨ c = '+' ∨ c = '-'

/-- A digit in front, and written characters behind it. -/
def Body (cs : List Char) : Prop :=
  (∃ c rest, cs = c :: rest ∧ c.isDigit = true) ∧ ∀ c ∈ cs, IsWritten c

/-- Some character tells the text from that of an integer. -/
def Marked (cs : List Char) : Prop := '.' ∈ cs ∨ 'e' ∈ cs

section Digits

variable {digits : List Char} {lead : Int}

theorem body_append {cs ds : List Char} (h : Body cs) (hds : ∀ c ∈ ds, IsWritten c) :
    Body (cs ++ ds) := by
  obtain ⟨⟨c, rest, rfl, hc⟩, hall⟩ := h
  refine ⟨⟨c, rest ++ ds, rfl, hc⟩, fun d hd => ?_⟩
  rcases List.mem_append.1 hd with hd | hd
  · exact hall d hd
  · exact hds d hd

theorem body_digits (hne : digits ≠ []) (hdig : ∀ c ∈ digits, c.isDigit = true) : Body digits := by
  obtain ⟨c, rest, rfl⟩ := List.exists_cons_of_ne_nil hne
  exact ⟨⟨c, rest, rfl, hdig c (List.mem_cons_self ..)⟩, fun d hd => .inl (hdig d hd)⟩

theorem isWritten_point {ds : List Char} (hdig : ∀ c ∈ ds, c.isDigit = true) :
    ∀ c ∈ '.' :: ds, IsWritten c := by
  intro c hc
  rcases List.mem_cons.1 hc with rfl | hc
  · exact .inr (.inl rfl)
  · exact .inl (hdig c hc)

theorem body_positional (l : Layout) (hne : digits ≠ [])
    (hdig : ∀ c ∈ digits, c.isDigit = true) : Body (l.positional digits lead) := by
  unfold positional
  split
  · have hzero : Body ['0'] := body_digits (by simp) (by simp)
    have hzeros : ∀ c ∈ zeros (-lead - 1).toNat, c.isDigit = true := fun c hc =>
      isDigit_of_mem_zeros hc
    exact body_append (body_append hzero (isWritten_point hzeros)) fun c hc => .inl (hdig c hc)
  · simp only
    split
    · refine body_append (body_append (body_digits hne hdig) fun c hc => ?_) fun c hc => ?_
      · exact .inl (isDigit_of_mem_zeros hc)
      · split at hc
        · exact isWritten_point (by simp) c hc
        · cases hc
    · refine body_append (body_digits (by simp [hne]) fun c hc => ?_)
        (isWritten_point fun c hc => hdig c (List.mem_of_mem_drop hc))
      exact hdig c (List.mem_of_mem_take hc)

theorem body_scientific (l : Layout) (hne : digits ≠ [])
    (hdig : ∀ c ∈ digits, c.isDigit = true) : Body (l.scientific digits lead) := by
  have hsign : ∀ c ∈ (if lead < 0 then ['-'] else if l.plus then ['+'] else []), IsWritten c := by
    intro c hc
    split at hc
    · exact .inr (.inr (.inr (.inr (List.mem_singleton.1 hc))))
    · split at hc
      · exact .inr (.inr (.inr (.inl (List.mem_singleton.1 hc))))
      · cases hc
  have hmark : ∀ c ∈ 'e' :: (if lead < 0 then ['-'] else if l.plus then ['+'] else []),
      IsWritten c := by
    intro c hc
    rcases List.mem_cons.1 hc with rfl | hc
    · exact .inr (.inr (.inl rfl))
    · exact hsign c hc
  have hfraction : ∀ c ∈ (if (digits.drop 1).isEmpty then [] else '.' :: digits.drop 1),
      IsWritten c := by
    intro c hc
    split at hc
    · cases hc
    · exact isWritten_point (fun c hc => hdig c (List.mem_of_mem_drop hc)) c hc
  have hfirst : Body (digits.take 1) :=
    body_digits (by simp [hne]) fun c hc => hdig c (List.mem_of_mem_take hc)
  have hexponent : ∀ c ∈ Nat.toDigits 10 lead.natAbs, IsWritten c := fun c hc =>
    .inl (isDigit_of_mem_toDigits hc)
  exact body_append (body_append (body_append hfirst hfraction) hmark) hexponent

theorem positional_marked {l : Layout} (h : l.point = true) :
    Marked (l.positional digits lead) := by
  unfold positional
  split
  · exact .inl (by simp)
  · simp only
    split
    · exact .inl (by simp)
    · exact .inl (by simp)

theorem scientific_marked (l : Layout) : Marked (l.scientific digits lead) := by
  unfold scientific
  exact .inr (by simp)

end Digits

theorem write_body (l : Layout) (negative : Bool) (d : Decimal) :
    ∃ cs, l.write negative d = Binary64.withSign negative cs ∧ Body cs := by
  rcases hsig : significant d with ⟨digits, lead⟩
  obtain ⟨hne, hdig, -⟩ := significant_spec hsig
  unfold write
  simp only [hsig]
  refine ⟨_, rfl, ?_⟩
  cases l.plain with
  | none => exact body_positional l hne hdig
  | some range =>
    simp only
    split
    · exact body_positional l hne hdig
    · exact body_scientific l hne hdig

theorem write_marked {l : Layout} (h : l.point = true) (negative : Bool) (d : Decimal) :
    Marked (l.write negative d) := by
  have hsign : ∀ cs, Marked cs → Marked (Binary64.withSign negative cs) := by
    intro cs hcs
    cases negative with
    | false => exact hcs
    | true => exact hcs.imp (List.mem_cons_of_mem _) (List.mem_cons_of_mem _)
  rcases hsig : significant d with ⟨digits, lead⟩
  unfold write
  simp only [hsig]
  refine hsign _ ?_
  cases l.plain with
  | none => exact positional_marked h
  | some range =>
    simp only
    split
    · exact positional_marked h
    · exact scientific_marked l

end Layout
end Sieve
