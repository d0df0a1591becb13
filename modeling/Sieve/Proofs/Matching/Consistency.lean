import Mathlib
import Sieve.Matching
import Sieve.Proofs.Value.Exact

/-!
# Sieve.Proofs.Matching.Consistency

How the comparisons that an entity satisfies go together. Two scalars are ordered as equal when they
are equal, and also when one is a truth value and the other the text of it, since other scalars than
numbers are equal within a kind and ordered by their texts (`Scalar.compare?_eq_iff`). That text is
the only thing that "at least" and "at most" have beyond "greater" or "less" and "equal":
`Entity.comparisons_agree`.
-/

namespace Sieve

namespace Scalar

/-- A truth value and the text that it has. -/
def IsNamesake (a b : Scalar) : Prop :=
  ∃ t, (a = .bool t ∧ b = .text (truth t)) ∨ (a = .text (truth t) ∧ b = .bool t)

theorem truth_injective : Function.Injective truth := by
  intro s t h
  cases s <;> cases t <;> simp [truth] at h ⊢

/-- Scalars of different kinds are not equal, unless both are numbers. -/
theorem equal_of_no_number {a b : Scalar} (ha : a.number? = none) (hb : b.number? = none) :
    a.equal b = true ↔ a = b := by
  cases a with
  | bool s =>
    cases b with
    | bool t => simp [equal, number?]
    | text t => simp [equal, number?]
    | _ => cases hb
  | text s =>
    cases b with
    | bool t => simp [equal, number?]
    | text t => simp [equal, number?]
    | _ => cases hb
  | _ => cases ha

theorem asText_eq_iff {a b : Scalar} (ha : a.number? = none) (hb : b.number? = none) :
    a.asText = b.asText ↔ a = b ∨ a.IsNamesake b := by
  cases a with
  | bool s =>
    cases b with
    | bool t => simp [asText, display, IsNamesake, truth_injective.eq_iff]
    | text t => simp [asText, display, IsNamesake, eq_comm]
    | _ => cases hb
  | text s =>
    cases b with
    | bool t => simp [asText, display, IsNamesake]
    | text t => simp [asText, IsNamesake]
    | _ => cases hb
  | _ => cases ha

/-- Ordered as equal are equal scalars, and a truth value and its text. -/
theorem compare?_eq_iff (a b : Scalar) :
    a.compare? b = some .eq ↔ a.equal b = true ∨ a.IsNamesake b := by
  have hnamesake : a.IsNamesake b → a.number? = none ∧ b.number? = none := by
    rintro ⟨t, ⟨rfl, rfl⟩ | ⟨rfl, rfl⟩⟩ <;> exact ⟨rfl, rfl⟩
  cases hx : a.number? with
  | some x =>
    have hapart : ¬ a.IsNamesake b := fun h => by simp [(hnamesake h).1] at hx
    cases hy : b.number? with
    | some y => simp [compare?, equal, hx, hy, hapart, Binary64.equal]
    | none => simp [(compare?_apart hx hy).1, (equal_apart hx hy).2, hapart]
  | none =>
    cases hy : b.number? with
    | some y =>
      have hapart : ¬ a.IsNamesake b := fun h => by simp [(hnamesake h).2] at hy
      simp [(compare?_apart hy hx).2, (equal_apart hy hx).1, hapart]
    | none =>
      rw [equal_of_no_number hx hy, ← asText_eq_iff hx hy]
      simp only [compare?, hx, hy, Option.some.injEq]
      exact compare_eq_iff_eq

end Scalar

namespace Predicate

/-- What a path leads to, compared with an operand. -/
def comparing (op : Comparison) (path : FieldPath) (o : Operand) : Predicate :=
  .leaf ⟨path, .comparison op o⟩

/-- A comparison looks at scalars alone. -/
theorem holds_comparing {op : Comparison} {path : FieldPath} {o : Operand} {e : Entity} :
    (comparing op path o).holds e = true ↔
      ∃ s, .scalar s ∈ e.findings path.segments ∧
        op.holds (s.equal o.scalar) (s.compare? o.scalar) = true := by
  rw [comparing, holds, Leaf.holds, List.any_eq_true]
  constructor
  · rintro ⟨found, hfound, hholds⟩
    cases found with
    | scalar s => exact ⟨s, hfound, hholds⟩
    | _ => cases hholds
  · rintro ⟨s, hfound, hholds⟩
    exact ⟨.scalar s, hfound, hholds⟩

end Predicate

namespace Entity

open Predicate (comparing holds_comparing)

/-- The path leads to a truth value or a text, and the operand is its namesake. -/
def FindsNamesake (e : Entity) (path : FieldPath) (o : Operand) : Prop :=
  ∃ s, .scalar s ∈ e.findings path.segments ∧ s.IsNamesake o.scalar

/-- A comparison that allows for equal order holds if the strict one or equality does, or by the
name alone. -/
theorem holds_weak_iff {weak strict : Comparison}
    (hweak : ∀ equal order,
      weak.holds equal order = (strict.holds equal order || order == some .eq))
    (e : Entity) (path : FieldPath) (o : Operand) :
    (comparing weak path o).holds e = true ↔
      (comparing strict path o).holds e = true ∨ (comparing .eq path o).holds e = true ∨
        e.FindsNamesake path o := by
  have hscalar : ∀ s : Scalar,
      weak.holds (s.equal o.scalar) (s.compare? o.scalar) = true ↔
        strict.holds (s.equal o.scalar) (s.compare? o.scalar) = true ∨
          Comparison.holds .eq (s.equal o.scalar) (s.compare? o.scalar) = true ∨
            s.IsNamesake o.scalar := by
    intro s
    rw [hweak, Bool.or_eq_true, beq_iff_eq, Scalar.compare?_eq_iff]
    rfl
  simp only [holds_comparing, hscalar, FindsNamesake, and_or_left, exists_or]

/-- Of a single finding at most one of "greater", "equal" and "less" holds. -/
theorem holds_one {e : Entity} {path : FieldPath} {o : Operand} {op op' : Comparison}
    (hsingle : (e.findings path.segments).length ≤ 1) (hop : op ∈ [.gt, .eq, .lt])
    (hop' : op' ∈ [.gt, .eq, .lt]) (h : (comparing op path o).holds e = true)
    (h' : (comparing op' path o).holds e = true) : op = op' := by
  rw [holds_comparing] at h h'
  obtain ⟨s, hs, hholds⟩ := h
  obtain ⟨t, ht, hholds'⟩ := h'
  have hsame : s = t := by
    obtain ⟨found, hfound⟩ := List.length_eq_one_iff.1
      (Nat.le_antisymm hsingle (List.length_pos_of_mem hs))
    rw [hfound, List.mem_singleton] at hs ht
    exact Found.scalar.inj (hs.trans ht.symm)
  subst hsame
  have hequal : s.equal o.scalar = true → s.compare? o.scalar = some .eq :=
    fun hequal => (Scalar.compare?_eq_iff s o.scalar).2 (.inl hequal)
  simp only [List.mem_cons, List.not_mem_nil, or_false] at hop hop'
  rcases hop with rfl | rfl | rfl <;> rcases hop' with rfl | rfl | rfl <;>
    simp_all [Comparison.holds]

/-- The comparisons that an entity satisfies go together: "at least" is "greater" or "equal", and
"at most" is "less" or "equal", but for a truth value against its own text, which are ordered as
equal without being equal. Where a path leads to a single value at most one of "greater", "equal"
and "less" holds. -/
theorem comparisons_agree (e : Entity) (path : FieldPath) (o : Operand) :
    ((comparing .ge path o).holds e = true ↔
      (comparing .gt path o).holds e = true ∨ (comparing .eq path o).holds e = true ∨
        e.FindsNamesake path o) ∧
    ((comparing .le path o).holds e = true ↔
      (comparing .lt path o).holds e = true ∨ (comparing .eq path o).holds e = true ∨
        e.FindsNamesake path o) ∧
    ((e.findings path.segments).length ≤ 1 →
      ∀ op ∈ [Comparison.gt, .eq, .lt], ∀ op' ∈ [Comparison.gt, .eq, .lt],
        (comparing op path o).holds e = true → (comparing op' path o).holds e = true → op = op') :=
  ⟨holds_weak_iff (fun _ _ => rfl) e path o, holds_weak_iff (fun _ _ => rfl) e path o,
    fun hsingle _ hop _ hop' h h' => holds_one hsingle hop hop' h h'⟩

/-- The truth value `true` is at least and at most the text "true", and neither equal to it nor
greater nor less. -/
theorem truth_beside_its_text :
    let e := Entity.map [("b", .leaf (.bool true))]
    let path : FieldPath := ⟨"b", by decide +kernel⟩
    let o : Operand := ⟨.text "true", rfl⟩
    ¬ ((comparing .ge path o).holds e = true ↔
        (comparing .gt path o).holds e = true ∨ (comparing .eq path o).holds e = true) ∧
      ¬ ((comparing .le path o).holds e = true ↔
        (comparing .lt path o).holds e = true ∨ (comparing .eq path o).holds e = true) := by
  decide +kernel

end Entity
end Sieve
