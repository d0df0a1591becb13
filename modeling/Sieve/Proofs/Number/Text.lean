import Mathlib
import Sieve.Number.Layout
import Sieve.Number.Reader
import Sieve.Proofs.Number.Decimal
import Sieve.Proofs.Text.Run

/-!
# Sieve.Proofs.Number.Text

Every layout of a decimal reads back: `decimal?_write` says that the text has the sign and the value
of the decimal, `read?_finite` that a finite number in any layout of its shortest digits is read as
itself.
-/

namespace Sieve

open Text

theorem ofDigits_eq (cs : List Char) : Natural.ofDigits cs = Nat.ofDigitChars 10 cs 0 := rfl

theorem ofDigits_append (cs ds : List Char) :
    Natural.ofDigits (cs ++ ds) = Natural.ofDigits cs * 10 ^ ds.length + Natural.ofDigits ds := by
  rw [ofDigits_eq, Nat.ofDigitChars_append, Nat.ofDigitChars_eq_ofDigitChars_zero, ofDigits_eq,
    ofDigits_eq, Nat.mul_comm]

theorem ofDigits_zeros (n : Nat) : Natural.ofDigits (Layout.zeros n) = 0 := by
  rw [ofDigits_eq, Layout.zeros, Nat.ofDigitChars_replicate_zero, Nat.mul_zero]

theorem ofDigits_toDigits (n : Nat) : Natural.ofDigits (Nat.toDigits 10 n) = n :=
  Nat.ofDigitChars_ten_toDigits

theorem isDigit_of_mem_toDigits {n : Nat} {c : Char} (h : c ∈ Nat.toDigits 10 n) :
    c.isDigit = true :=
  Nat.isDigit_of_mem_toDigits (by decide) (by decide) h

theorem isDigit_of_mem_zeros {n : Nat} {c : Char} (h : c ∈ Layout.zeros n) : c.isDigit = true := by
  rw [(List.mem_replicate.1 h).2]
  rfl

theorem readDigits?_toDigits (n : Nat) : Natural.readDigits? (Nat.toDigits 10 n) = some n := by
  have hall : (Nat.toDigits 10 n).all Char.isDigit = true :=
    List.all_eq_true.2 fun _ hc => isDigit_of_mem_toDigits hc
  simp only [Natural.readDigits?, ofDigits_toDigits, hall, ne_eq, Nat.toDigits_ne_nil,
    not_false_eq_true, and_self, if_true]

theorem toDigits_cases (n : Nat) : ∃ c cs, Nat.toDigits 10 n = c :: cs ∧ c.isDigit = true := by
  obtain ⟨c, cs, h⟩ := List.exists_cons_of_ne_nil (Nat.toDigits_ne_nil (n := n) (b := 10))
  exact ⟨c, cs, h, isDigit_of_mem_toDigits (h ▸ List.mem_cons_self ..)⟩

section Unsigned

variable {c : Char} (h : c.isDigit = true) (cs : List Char)

include h

/-- What starts with a digit has no sign. -/
theorem integerRead?_digits :
    Integer.read? (c :: cs) = (Natural.readDigits? (c :: cs)).map Int.ofNat := by
  unfold Integer.read?
  split
  · rename_i heq
    rw [(List.cons.inj heq).1] at h
    exact absurd h (by decide)
  · rename_i heq
    rw [(List.cons.inj heq).1] at h
    exact absurd h (by decide)
  · rfl

theorem naturalRead?_digits : Natural.read? (c :: cs) = Natural.readDigits? (c :: cs) := by
  unfold Natural.read?
  split
  · rename_i heq
    rw [(List.cons.inj heq).1] at h
    exact absurd h (by decide)
  · rfl

end Unsigned

theorem integerRead?_toDigits (n : Nat) :
    Integer.read? (Nat.toDigits 10 n) = some (n : Int) := by
  obtain ⟨c, cs, hcs, hc⟩ := toDigits_cases n
  have hread := readDigits?_toDigits n
  rw [hcs] at hread ⊢
  rw [integerRead?_digits hc, hread]
  rfl

namespace Binary64

/-- The sign and the decimal that a text writes. -/
def decimal? (cs : List Char) : Option (Bool × Decimal) :=
  let (negative, body) := splitSign cs
  let whole := body.takeWhile Char.isDigit
  let rest := body.dropWhile Char.isDigit
  let (fraction, tail) :=
    match rest with
    | '.' :: more => (more.takeWhile Char.isDigit, more.dropWhile Char.isDigit)
    | _ => ([], rest)
  if whole.isEmpty && fraction.isEmpty then none
  else
    (readExponent? tail).map fun exponent =>
      (negative, ⟨Natural.ofDigits (whole ++ fraction), exponent - fraction.length⟩)

theorem readBy?_eq (f : Bool → Nat → Int → Binary64) (cs : List Char) :
    readBy? f cs = (decimal? cs).map fun (negative, d) => f negative d.digits d.exponent := by
  unfold readBy? decimal?
  simp only [apply_ite (Option.map _), Option.map_none, Option.map_map]
  rfl

/-- A text with its sign in front. -/
def withSign (negative : Bool) (cs : List Char) : List Char := if negative then '-' :: cs else cs

theorem splitSign_withSign (negative : Bool) {c : Char} {cs : List Char} (h : c.isDigit = true) :
    splitSign (withSign negative (c :: cs)) = (negative, c :: cs) := by
  cases negative with
  | true => rfl
  | false =>
    have hminus : c ≠ '-' := by rintro rfl; exact absurd h (by decide)
    have hplus : c ≠ '+' := by rintro rfl; exact absurd h (by decide)
    unfold withSign splitSign
    simp only [Bool.false_eq_true, if_false]
    split
    · rename_i heq
      exact absurd (List.cons.inj heq).1 hminus
    · rename_i heq
      exact absurd (List.cons.inj heq).1 hplus
    · rfl

section Read

variable (negative : Bool) (whole fraction : List Char) {tail : List Char} {exponent : Int}

theorem decimal?_whole (hne : whole ≠ []) (hw : ∀ c ∈ whole, c.isDigit = true)
    (ht : Stops (fun c => c.isDigit || c == '.') tail) (he : readExponent? tail = some exponent) :
    decimal? (withSign negative (whole ++ tail)) =
      some (negative, ⟨Natural.ofDigits whole, exponent⟩) := by
  obtain ⟨c, cs, rfl⟩ := List.exists_cons_of_ne_nil hne
  have hstop : Stops Char.isDigit tail := fun d hd => by
    have := ht d hd
    simp only [Bool.or_eq_false_iff] at this
    exact this.1
  have htake := takeWhile_run hw hstop
  have hdrop := dropWhile_run hw hstop
  unfold decimal?
  rw [List.cons_append, splitSign_withSign negative (hw c (List.mem_cons_self ..)),
    ← List.cons_append]
  simp only [htake, hdrop]
  split
  · exact absurd (stops_cons.1 ht) (by decide)
  · simp [he]

theorem decimal?_point (hne : whole ≠ []) (hw : ∀ c ∈ whole, c.isDigit = true)
    (hf : ∀ c ∈ fraction, c.isDigit = true) (ht : Stops Char.isDigit tail)
    (he : readExponent? tail = some exponent) :
    decimal? (withSign negative (whole ++ '.' :: (fraction ++ tail))) =
      some (negative, ⟨Natural.ofDigits (whole ++ fraction), exponent - fraction.length⟩) := by
  obtain ⟨c, cs, rfl⟩ := List.exists_cons_of_ne_nil hne
  have hstop : Stops Char.isDigit ('.' :: (fraction ++ tail)) := stops_cons.2 (by decide)
  have htake := takeWhile_run hw hstop
  have hdrop := dropWhile_run hw hstop
  unfold decimal?
  rw [List.cons_append, splitSign_withSign negative (hw c (List.mem_cons_self ..)),
    ← List.cons_append]
  simp only [htake, hdrop, takeWhile_run hf ht, dropWhile_run hf ht, he]
  simp

end Read

end Binary64

namespace Layout

theorem trailing_zeros (cs : List Char) :
    ∃ k, cs = (cs.reverse.dropWhile (· == '0')).reverse ++ zeros k := by
  have hzeros : cs.reverse.takeWhile (· == '0') =
      zeros (cs.reverse.takeWhile (· == '0')).length :=
    List.eq_replicate_length.2 fun c hc => by simpa using List.mem_takeWhile_imp hc
  generalize (cs.reverse.takeWhile (· == '0')).length = k at hzeros
  refine ⟨k, ?_⟩
  calc cs = cs.reverse.reverse := (List.reverse_reverse cs).symm
    _ = (zeros k ++ cs.reverse.dropWhile (· == '0')).reverse := by
      rw [← hzeros, List.takeWhile_append_dropWhile]
    _ = (cs.reverse.dropWhile (· == '0')).reverse ++ zeros k := by
      rw [List.reverse_append, zeros, List.reverse_replicate]

/-- The digits that are set out, with the exponent of the last one, are the decimal. -/
theorem significant_spec {d : Decimal} {digits : List Char} {lead : Int}
    (h : significant d = (digits, lead)) :
    digits ≠ [] ∧ (∀ c ∈ digits, c.isDigit = true) ∧
      (⟨Natural.ofDigits digits, lead + 1 - digits.length⟩ : Decimal).value = d.value := by
  unfold significant at h
  split at h
  · rename_i hz
    cases h
    refine ⟨by simp, by simp, ?_⟩
    have hzero : Natural.ofDigits ['0'] = 0 := rfl
    simp [Decimal.value, hz, hzero]
  · rename_i hz
    obtain ⟨k, hk⟩ := trailing_zeros (Nat.toDigits 10 d.digits)
    simp only [Prod.mk.injEq] at h
    obtain ⟨hdigits, hlead⟩ := h
    rw [hdigits] at hk
    have hnum : Natural.ofDigits digits * 10 ^ k = d.digits := by
      have := ofDigits_toDigits d.digits
      rwa [hk, ofDigits_append, ofDigits_zeros, Nat.add_zero, zeros, List.length_replicate] at this
    refine ⟨?_, fun c hc => ?_, ?_⟩
    · rintro rfl
      exact hz (by rw [← hnum]; simp [ofDigits_eq])
    · exact isDigit_of_mem_toDigits (n := d.digits) (hk ▸ List.mem_append_left _ hc)
    · have hlen : (Nat.toDigits 10 d.digits).length = digits.length + k := by
        rw [hk]
        simp [zeros]
      have hexp : lead + 1 - digits.length = d.exponent + k := by
        rw [← hlead, hlen]
        push_cast
        ring
      unfold Decimal.value
      simp only [hexp]
      rw [← hnum, zpow_add₀ (by norm_num), zpow_natCast]
      push_cast
      ring

/-- A text reads as a decimal of a sign and a value. -/
def Writes (negative : Bool) (q : ℚ) (cs : List Char) : Prop :=
  ∃ d : Decimal,
    Binary64.decimal? (Binary64.withSign negative cs) = some (negative, d) ∧ d.value = q

section Write

variable {negative : Bool} {digits : List Char} {lead : Int}

theorem readExponent?_nil : Binary64.readExponent? [] = some 0 := rfl

theorem isDigit_of_mem_padded (hdig : ∀ c ∈ digits, c.isDigit = true) (k : Nat) :
    ∀ c ∈ digits ++ zeros k, c.isDigit = true := fun c hc =>
  (List.mem_append.1 hc).elim (hdig c) isDigit_of_mem_zeros

/-- Zeros stand between the point and the digits. -/
theorem writes_below_one (hdig : ∀ c ∈ digits, c.isDigit = true) (hlead : lead < 0) :
    Writes negative (⟨Natural.ofDigits digits, lead + 1 - digits.length⟩ : Decimal).value
      ('0' :: '.' :: zeros (-lead - 1).toNat ++ digits) := by
  have hfrac : ∀ c ∈ zeros (-lead - 1).toNat ++ digits, c.isDigit = true := fun c hc =>
    (List.mem_append.1 hc).elim isDigit_of_mem_zeros (hdig c)
  have h := Binary64.decimal?_point negative ['0'] _ (by simp) (by simp) hfrac (stops_nil _)
    readExponent?_nil
  rw [List.append_nil] at h
  refine ⟨_, h, ?_⟩
  have hnum : Natural.ofDigits (['0'] ++ (zeros (-lead - 1).toNat ++ digits)) =
      Natural.ofDigits digits := by
    have hzero : Natural.ofDigits ['0'] = 0 := rfl
    rw [ofDigits_append, ofDigits_append, ofDigits_zeros, hzero, Nat.zero_mul, Nat.zero_mul,
      Nat.zero_add, Nat.zero_add]
  have hexp : 0 - ((zeros (-lead - 1).toNat ++ digits).length : Int) =
      lead + 1 - digits.length := by
    simp only [zeros, List.length_append, List.length_replicate]
    omega
  rw [hnum, hexp]

/-- Zeros stand behind the digits, and a point and one more if there has to be a point. -/
theorem writes_whole (point : Bool) (hne : digits ≠ []) (hdig : ∀ c ∈ digits, c.isDigit = true)
    (k : Nat) :
    Writes negative (⟨Natural.ofDigits digits, k⟩ : Decimal).value
      (digits ++ zeros k ++ (if point then ['.', '0'] else [])) := by
  have hnum : Natural.ofDigits (digits ++ zeros k) = Natural.ofDigits digits * 10 ^ k := by
    rw [ofDigits_append, ofDigits_zeros, Nat.add_zero, zeros, List.length_replicate]
  have hsome : digits ++ zeros k ≠ [] := by simp [hne]
  cases point with
  | true =>
    have h := Binary64.decimal?_point negative (digits ++ zeros k) ['0'] hsome
      (isDigit_of_mem_padded hdig k) (by simp) (stops_nil _) readExponent?_nil
    refine ⟨_, h, ?_⟩
    have hzero : Natural.ofDigits ['0'] = 0 := rfl
    rw [ofDigits_append, hnum, hzero]
    simp only [Decimal.value, List.length_singleton, zpow_natCast]
    push_cast
    norm_num
    ring
  | false =>
    have h := Binary64.decimal?_whole negative (digits ++ zeros k) hsome
      (isDigit_of_mem_padded hdig k) (stops_nil _) readExponent?_nil
    refine ⟨_, h, ?_⟩
    rw [hnum]
    simp [Decimal.value]

/-- The point stands between the digits. -/
theorem writes_between (hne : digits ≠ []) (hdig : ∀ c ∈ digits, c.isDigit = true)
    (hlead : 0 ≤ lead) (hlong : lead.toNat + 1 < digits.length) :
    Writes negative (⟨Natural.ofDigits digits, lead + 1 - digits.length⟩ : Decimal).value
      (digits.take (lead.toNat + 1) ++ '.' :: digits.drop (lead.toNat + 1)) := by
  have h := Binary64.decimal?_point negative (digits.take (lead.toNat + 1))
    (digits.drop (lead.toNat + 1)) (by simp [hne]) (fun c hc => hdig c (List.mem_of_mem_take hc))
    (fun c hc => hdig c (List.mem_of_mem_drop hc)) (stops_nil _) readExponent?_nil
  rw [List.append_nil] at h
  refine ⟨_, h, ?_⟩
  have hexp : 0 - ((digits.drop (lead.toNat + 1)).length : Int) = lead + 1 - digits.length := by
    rw [List.length_drop]
    omega
  rw [List.take_append_drop, hexp]

theorem writes_positional (l : Layout) (hne : digits ≠ [])
    (hdig : ∀ c ∈ digits, c.isDigit = true) :
    Writes negative (⟨Natural.ofDigits digits, lead + 1 - digits.length⟩ : Decimal).value
      (l.positional digits lead) := by
  unfold positional
  by_cases hneg : lead < 0
  · rw [if_pos hneg]
    exact writes_below_one hdig hneg
  · rw [if_neg hneg]
    simp only
    by_cases hshort : digits.length ≤ lead.toNat + 1
    · have hexp : lead + 1 - digits.length = ((lead.toNat + 1 - digits.length : Nat) : Int) := by
        omega
      rw [if_pos hshort, hexp]
      exact writes_whole l.point hne hdig _
    · rw [if_neg hshort]
      exact writes_between hne hdig (by omega) (by omega)

theorem readExponent?_written (l : Layout) (lead : Int) :
    Binary64.readExponent? ('e' :: ((if lead < 0 then ['-'] else if l.plus then ['+'] else []) ++
      Nat.toDigits 10 lead.natAbs)) = some lead := by
  simp only [Binary64.readExponent?, true_or, if_true]
  split
  · rename_i hneg
    have hnat : -(lead.natAbs : Int) = lead := by omega
    rw [List.singleton_append, Integer.read?, readDigits?_toDigits]
    exact congrArg some hnat
  · have hnat : (lead.natAbs : Int) = lead := by omega
    split
    · rw [List.singleton_append, Integer.read?, readDigits?_toDigits]
      exact congrArg some hnat
    · rw [List.nil_append, integerRead?_toDigits, hnat]

theorem writes_scientific (l : Layout) (hne : digits ≠ [])
    (hdig : ∀ c ∈ digits, c.isDigit = true) :
    Writes negative (⟨Natural.ofDigits digits, lead + 1 - digits.length⟩ : Decimal).value
      (l.scientific digits lead) := by
  obtain ⟨c, cs, rfl⟩ := List.exists_cons_of_ne_nil hne
  have hexp := readExponent?_written l lead
  unfold scientific
  simp only [List.drop_succ_cons, List.drop_zero, List.take_succ_cons, List.take_zero]
  generalize hsign : (if lead < 0 then ['-'] else if l.plus then ['+'] else []) = sign at hexp ⊢
  cases cs with
  | nil =>
    have h := Binary64.decimal?_whole negative [c] (by simp) hdig
      (stops_cons.2 (by decide)) hexp
    refine ⟨_, by simpa using h, ?_⟩
    simp
  | cons d ds =>
    have h := Binary64.decimal?_point negative [c] (d :: ds)
      (by simp) (fun x hx => hdig x (by simp at hx; simp [hx]))
      (fun x hx => hdig x (List.mem_cons_of_mem _ hx)) (stops_cons.2 (by decide)) hexp
    refine ⟨_, by simpa using h, ?_⟩
    have hlen : lead + 1 - ((c :: d :: ds).length : Int) = lead - ((d :: ds).length : Int) := by
      simp only [List.length_cons]
      omega
    rw [hlen]
    rfl

end Write

theorem decimal?_write (l : Layout) (negative : Bool) (d : Decimal) :
    ∃ e : Decimal, Binary64.decimal? (l.write negative d) = some (negative, e) ∧
      e.value = d.value := by
  rcases hsig : significant d with ⟨digits, lead⟩
  obtain ⟨hne, hdig, hvalue⟩ := significant_spec hsig
  rw [← hvalue]
  unfold write
  simp only [hsig]
  cases l.plain with
  | none => exact writes_positional l hne hdig
  | some range =>
    by_cases hrange : range.1 ≤ lead ∧ lead < range.2
    · simp only [if_pos hrange]
      exact writes_positional l hne hdig
    · simp only [if_neg hrange]
      exact writes_scientific l hne hdig

end Layout

namespace Binary64

theorem read?_finite (l : Layout) (x : Finite) : read? (l.finite x).toList = some (.finite x) := by
  obtain ⟨e, hread, hvalue⟩ := l.decimal?_write x.negative (Decimal.shortest l.tie x)
  have hback := (Decimal.readsBack_iff.1 (Decimal.shortest_readsBack l.tie x))
  rw [← hvalue] at hback
  have he : e.ReadsBack x := Decimal.readsBack_iff.2 hback
  unfold read? Layout.finite
  rw [String.toList_ofList, readBy?_eq, hread]
  simp only [Option.map_some, Option.some.injEq]
  exact he

end Binary64

end Sieve
