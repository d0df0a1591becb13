import Mathlib
import Sieve.Proofs.Predicate.Draft
import Sieve.Proofs.Predicate.Recognition
import Sieve.Proofs.Predicate.RoundTrip

/-!
# Sieve.Proofs.Predicate.Settled

What expressions are read as. However a text is written, the predicate it is read as has no compound
of less than two children, only paths of the grammar and unsigned integers only where no signed one
would do; and such a predicate comes back from its own text as it is. So writing settles a text for
good: `parse_settles`.
-/

namespace Sieve

/-- A scalar that stands in a value, by itself or as an item of a list. -/
inductive Value.Has : Value → Scalar → Prop where
  | self (s : Scalar) : Has (.scalar s) s
  | item {vs : List Value} {s : Scalar} : .scalar s ∈ vs → Has (.list vs) s

theorem Condition.has_operand {c : Condition} {o : Operand} (h : o ∈ c.operands) :
    c.value.Has o.scalar := by
  cases c with
  | comparison op o' =>
    rw [List.mem_singleton.1 h]
    exact .self _
  | membership negated items => exact .item (List.mem_map_of_mem h)
  | textual test o' =>
    rw [List.mem_singleton.1 h]
    exact .self _
  | nullness negated => cases h

/-- What reads as a natural number reads as an integer too. -/
theorem Integer.read?_of_natural {cs : List Char} {n : Nat} (h : Natural.read? cs = some n) :
    Integer.read? cs = some (n : Int) := by
  unfold Natural.read? at h
  split at h
  · rw [Integer.read?, h]
    rfl
  · next hplus =>
    unfold Integer.read?
    split
    · next cs =>
      have hminus : Natural.readDigits? ('-' :: cs) = none := by simp [Natural.readDigits?]
      rw [hminus] at h
      cases h
    · exact absurd rfl (hplus _)
    · rw [h]
      rfl

/-- An unsigned integer is read only where the digits fit no signed one. -/
theorem UInt64.le_of_read? {cs : List Char} {n : UInt64} (hsigned : Int64.read? cs = none)
    (h : UInt64.read? cs = some n) : 2 ^ 63 ≤ n.toNat := by
  obtain ⟨k, hk, h⟩ := Option.bind_eq_some_iff.1 h
  split at h
  · next hfits =>
    cases h
    unfold Natural.greatest64 at hfits
    have hsize : k < UInt64.size := by
      unfold UInt64.size
      omega
    have hval : (UInt64.ofNat k).toNat = k := UInt64.toNat_ofNat_of_lt' hsize
    rw [hval]
    by_contra hsmall
    have hbounds : Integer.least64 ≤ (k : Int) ∧ (k : Int) ≤ Integer.greatest64 := by
      unfold Integer.least64 Integer.greatest64
      omega
    rw [Int64.read?, Integer.read?_of_natural hk, Option.bind_some, if_pos hbounds] at hsigned
    cases hsigned
  · cases h

/-- An integer is unsigned only if no signed one has its value. -/
def Scalar.PrefersSigned (s : Scalar) : Prop := ∀ n, s = .uint n → 2 ^ 63 ≤ n.toNat

theorem Scalar.PrefersSigned.canonical_eq {s : Scalar} (h : s.PrefersSigned) : s.canonical = s := by
  cases s with
  | uint n => rw [canonical, if_neg (Nat.not_lt.2 (h n rfl))]
  | _ => rfl

/-- The operands of leaves are unsigned only where no signed ones would do. -/
def PreferSigned (ls : List Leaf) : Prop :=
  ∀ l ∈ ls, ∀ o ∈ l.condition.operands, o.scalar.PrefersSigned

theorem preferSigned_append {as bs : List Leaf} :
    PreferSigned (as ++ bs) ↔ PreferSigned as ∧ PreferSigned bs := List.forall_mem_append

theorem Leaf.canonical_eq {l : Leaf} (h : ∀ o ∈ l.condition.operands, o.scalar.PrefersSigned) :
    l.canonical = l := by
  have hoperand : ∀ o ∈ l.condition.operands, o.canonical = o := by
    intro o ho
    obtain ⟨s, hs⟩ := o
    rw [Operand.canonical, Operand.mk.injEq]
    exact (h _ ho).canonical_eq
  obtain ⟨field, c⟩ := l
  rw [Leaf.canonical, Leaf.mk.injEq]
  refine ⟨rfl, ?_⟩
  cases c with
  | comparison op o => exact congrArg _ (hoperand o (List.mem_singleton_self o))
  | membership negated items =>
    exact congrArg _ ((List.map_congr_left hoperand).trans (List.map_id items))
  | textual test o => exact congrArg _ (hoperand o (List.mem_singleton_self o))
  | nullness negated => rfl

namespace Predicate

mutual

/-- Every compound has two children or more. -/
def Branches : Predicate → Prop
  | .matchAll => True
  | .leaf _ => True
  | .compound _ ps => 2 ≤ ps.length ∧ AllBranch ps

def AllBranch : List Predicate → Prop
  | [] => True
  | p :: ps => p.Branches ∧ AllBranch ps

end

mutual

/-- There is nothing to collapse where every compound branches. -/
theorem collapseBy_eq {change : Leaf → Leaf} : ∀ {p : Predicate}, p.Branches →
    (∀ l ∈ p.leaves, change l = l) → p.collapseBy change = p
  | .matchAll, _, _ => by rw [collapseBy]
  | .leaf l, _, hleaves => by rw [collapseBy, hleaves l (by simp [leaves])]
  | .compound c [], h, _ => by simp [Branches] at h
  | .compound c [p], h, _ => by simp [Branches] at h
  | .compound c (p :: q :: ps), h, hleaves => by
    rw [Branches, AllBranch, AllBranch] at h
    obtain ⟨-, hp, hq, hps⟩ := h
    simp only [leaves, leavesOf, List.forall_mem_append] at hleaves
    obtain ⟨hp', hq', hps'⟩ := hleaves
    rw [collapseBy, collapseBy_eq hp hp', collapseBy_eq hq hq', collapseAllBy_eq hps hps']

theorem collapseAllBy_eq {change : Leaf → Leaf} : ∀ {ps : List Predicate}, AllBranch ps →
    (∀ l ∈ leavesOf ps, change l = l) → collapseAllBy change ps = ps
  | [], _, _ => by rw [collapseAllBy]
  | p :: ps, h, hleaves => by
    rw [AllBranch] at h
    simp only [leavesOf, List.forall_mem_append] at hleaves
    rw [collapseAllBy, collapseBy_eq h.1 hleaves.1, collapseAllBy_eq h.2 hleaves.2]

end

/-- The form of the predicates that texts are read as. -/
structure Settled (p : Predicate) : Prop where
  branches : p.Branches
  inGrammar : ∀ l ∈ p.leaves, Expression.InGrammar l.field.text
  signed : PreferSigned p.leaves

/-- A settled predicate comes back from its text as it is. -/
theorem Settled.parse_text {p : Predicate} (h : p.Settled) : parse p.text = .ok p := by
  rw [Predicate.parse_text h.inGrammar,
    collapseBy_eq h.branches fun l hl => Leaf.canonical_eq (h.signed l hl)]

end Predicate

namespace Grammar

variable {cs rest : List Char} {v : Value} {s : Scalar}

theorem Numeral.prefersSigned (h : Numeral cs s) : s.PrefersSigned := by
  intro n hn
  cases h with
  | float _ _ => cases hn
  | int _ _ => cases hn
  | uint _ hsigned hread =>
    cases hn
    exact UInt64.le_of_read? hsigned hread

theorem ValueText.prefersSigned (h : ValueText v cs rest) (hs : v.Has s) : s.PrefersSigned := by
  cases h with
  | number _ _ hnumeral =>
    cases hs
    exact hnumeral.prefersSigned
  | text _ _ | yes _ | no _ =>
    cases hs
    intro n hn
    cases hn
  | null _ => cases hs

theorem ValuesText.prefersSigned {vs : List Value} (h : ValuesText vs cs rest) :
    ∀ s, .scalar s ∈ vs → s.PrefersSigned := by
  induction h with
  | last h =>
    intro s hs
    rw [List.mem_singleton] at hs
    exact h.prefersSigned (hs ▸ .self s)
  | more h _ _ _ ih =>
    intro s hs
    rcases List.mem_cons.1 hs with hs | hs
    · exact h.prefersSigned (hs ▸ .self s)
    · exact ih s hs

theorem OperandText.prefersSigned {op : Operator} (h : OperandText op v cs rest) (hs : v.Has s) :
    s.PrefersSigned := by
  cases h with
  | none => cases hs
  | list _ hlist =>
    cases hs with
    | item hmem =>
      cases hlist with
      | empty _ => cases hmem
      | items _ hvalues _ => exact hvalues.prefersSigned s hmem
  | value _ _ _ hvalue => exact hvalue.prefersSigned hs

/-- The operands of a comparison are those that its text writes. -/
theorem ComparisonText.settled {field : String} {op : Operator} {p : Predicate}
    (h : ComparisonText field op v cs rest) (hmake : Predicate.make field op v = .ok p) :
    p.Branches ∧ PreferSigned p.leaves := by
  obtain ⟨-, -, -, hoperand⟩ := h
  unfold Predicate.make at hmake
  split at hmake
  · cases hmake
  · split at hmake
    · next c hc =>
      cases hmake
      refine ⟨trivial, fun l hl o ho => ?_⟩
      obtain rfl := List.mem_singleton.1 hl
      have hhas := Condition.has_operand ho
      rw [(Condition.make_eq_ok hc).2] at hhas
      exact hoperand.prefersSigned hhas
    · cases hmake

mutual

/-- By induction on the derivation: a compound is derived from a term and one more at least. -/
theorem SequenceText.settled : ∀ {p : Predicate} {cs rest : List Char}, SequenceText p cs rest →
    p.Branches ∧ PreferSigned p.leaves
  | _, _, _, .single h => h.settled
  | _, _, _, .several h hmore => by
    obtain ⟨hbranches, hsigned⟩ := h.settled
    obtain ⟨hbranches', hsigned'⟩ := hmore.settled
    refine ⟨⟨Nat.le_add_left .., hbranches, hbranches'⟩, ?_⟩
    rw [Predicate.leaves, Predicate.leavesOf, preferSigned_append]
    exact ⟨hsigned, hsigned'⟩

theorem TermText.settled : ∀ {p : Predicate} {cs rest : List Char}, TermText p cs rest →
    p.Branches ∧ PreferSigned p.leaves
  | _, _, _, .group _ _ h _ => h.settled
  | _, _, _, .all _ => ⟨trivial, fun l hl => by cases hl⟩
  | _, _, _, .comparison _ h hmake => h.settled hmake

theorem MoreText.settled : ∀ {c : Conjunction} {ps : List Predicate} {cs rest : List Char},
    MoreText c ps cs rest → Predicate.AllBranch ps ∧
      PreferSigned (Predicate.leavesOf ps)
  | _, _, _, _, .nil => ⟨trivial, fun l hl => by cases hl⟩
  | _, _, _, _, .cons _ _ _ h hmore => by
    obtain ⟨hbranches, hsigned⟩ := h.settled
    obtain ⟨hbranches', hsigned'⟩ := hmore.settled
    refine ⟨⟨hbranches, hbranches'⟩, ?_⟩
    rw [Predicate.leavesOf, preferSigned_append]
    exact ⟨hsigned, hsigned'⟩

end

end Grammar

namespace Predicate

theorem settled_of_parse {s : String} {p : Predicate} (h : parse s = .ok p) : p.Settled := by
  obtain ⟨hbranches, hsigned⟩ := (Grammar.derives_of_parse h).settled
  have hpaths := Expression.inGrammar_of_parse h
  exact ⟨hbranches, fun l hl => hpaths _ (List.mem_map_of_mem hl), hsigned⟩

/-- What a text is read as is settled: every compound branches, every path is in the grammar, every
unsigned integer is too large for a signed one, and the predicate comes back from its own text as it
is. -/
theorem parse_settles {s : String} {p : Predicate} (h : parse s = .ok p) :
    p.Branches ∧ (∀ l ∈ p.leaves, Expression.InGrammar l.field.text) ∧
      (∀ l ∈ p.leaves, ∀ o ∈ l.condition.operands, ∀ n, o.scalar = .uint n → 2 ^ 63 ≤ n.toNat) ∧
      parse p.text = .ok p :=
  have hsettled := settled_of_parse h
  ⟨hsettled.branches, hsettled.inGrammar, hsettled.signed, hsettled.parse_text⟩

/-- Needless parentheses, signs and blanks, other quotes and other letters are gone from the text of
what is read. -/
theorem parse_settles_written :
    ∃ p, parse "\t(( (tier>=+5) AnD (site.Name not_in('it\\'s' ,-.50,18446744073709551615) ) ))" =
        .ok p ∧
      p.text = "(tier >= 5 AND site.Name NOT IN (\"it's\", -0.5, 18446744073709551615))" ∧
      p.Branches ∧ parse p.text = .ok p := by
  let s := "\t(( (tier>=+5) AnD (site.Name not_in('it\\'s' ,-.50,18446744073709551615) ) ))"
  have hread : (parse s).toOption.map text =
      some "(tier >= 5 AND site.Name NOT IN (\"it's\", -0.5, 18446744073709551615))" := by
    decide +kernel
  obtain ⟨p, hp, htext⟩ := Expression.ok_of_map hread
  have hsettles := parse_settles hp
  exact ⟨p, hp, htext, hsettles.1, hsettles.2.2.2⟩

end Predicate
end Sieve
