import Mathlib
import Sieve.Proofs.Predicate.Transparency
import Sieve.Proofs.Sql.DocumentLeaf
import Sieve.Proofs.Sql.Formula

/-!
# Sieve.Proofs.Predicate.Misreading

Predicates that mean something else once they are written and read again. Whatever stands in a path
is written as it is, and the reader takes only characters of the grammar for a path, so what it
gives never asks for a path outside the grammar. A predicate that does ask for one is therefore read
wrong or not at all: `readRight_iff`.
-/

namespace Sieve

namespace Entity

/-- An entity with nothing but what stands at the end of one path. -/
def nest : List String → Entity → Entity
  | [], e => e
  | segment :: rest, e => .map [(segment, nest rest e)]

theorem findings_nest (path : List String) (e : Entity) :
    findings path (nest path e) = findings [] e := by
  induction path with
  | nil => rfl
  | cons segment rest ih => rw [nest, findings_entry, ih]

/-- Any other path finds the same, whether a scalar stands at the end or nothing. -/
theorem findings_nest_other {path other : List String} (h : other ≠ path) (s : Scalar) :
    findings other (nest path (.leaf s)) = findings other (nest path .null) := by
  induction path generalizing other with
  | nil =>
    obtain ⟨key, rest, rfl⟩ := List.exists_cons_of_ne_nil h
    simp [nest, findings, resolve, itemFindings]
  | cons segment rest ih =>
    cases other with
    | nil => simp [nest, findings, resolve, itemFindings]
    | cons key more =>
      by_cases hkey : key = segment
      · subst hkey
        have hmore : more ≠ rest := fun heq => h (by rw [heq])
        rw [nest, nest, findings_entry, findings_entry, ih hmore]
      · simp [nest, findings, resolve, resolveMember, Ne.symm hkey]

end Entity

theorem pathSegments_injective {s t : String} (h : pathSegments s = pathSegments t) : s = t := by
  have hsplit : Text.split '.' s.toList = Text.split '.' t.toList :=
    List.map_injective_iff.2 (fun a b hab => String.ofList_injective hab) h
  have hjoin := congrArg (['.'].intercalate) hsplit
  rw [Text.join_split, Text.join_split] at hjoin
  exact String.toList_injective hjoin

namespace Predicate

/-- The text of the predicate is read as one that the same entities satisfy. -/
def ReadRight (p : Predicate) : Prop :=
  ∃ q, parse p.text = .ok q ∧ ∀ e, q.holds e = p.holds e

/-- The predicate tells entities apart that differ at the end of the path alone. -/
def Heeds (p : Predicate) (path : List String) : Prop :=
  ∃ e e', (∀ other, other ≠ path → Entity.findings other e = Entity.findings other e') ∧
    p.holds e ≠ p.holds e'

section Heeds

variable {p q : Predicate} {e e' : Entity}

/-- Entities that satisfy the same leaves satisfy the same predicates. -/
theorem holds_congr (h : ∀ l ∈ p.leaves, l.holds e = l.holds e') : p.holds e = p.holds e' := by
  let t : Nat → Bool := fun i => ((p.leaves[i]?).map (·.holds e)).getD false
  have hsettles : Settles e t 0 p.leaves := fun i l hl => by simp [t, hl]
  have hsettles' : Settles e' t 0 p.leaves := fun i l hl => by
    rw [hsettles i l hl]
    exact h l (List.mem_of_getElem? hl)
  rw [holds_eq_holdsBy p 0 hsettles, holds_eq_holdsBy p 0 hsettles']

/-- Only paths of its leaves make a difference to a predicate. -/
theorem mem_fields_of_heeds {field : String} (h : p.Heeds (pathSegments field)) :
    field ∈ p.fields := by
  obtain ⟨e, e', hsame, hdiffer⟩ := h
  by_contra hmem
  refine hdiffer (holds_congr fun l hl => ?_)
  have hpath : l.field.segments ≠ pathSegments field := fun heq =>
    hmem (List.mem_map.2 ⟨l, hl, pathSegments_injective heq⟩)
  rw [Leaf.holds, Leaf.holds, hsame _ hpath]

theorem Heeds.congr {path : List String} (h : p.Heeds path) (hpq : ∀ e, q.holds e = p.holds e) :
    q.Heeds path := by
  obtain ⟨e, e', hsame, hdiffer⟩ := h
  exact ⟨e, e', hsame, by rwa [hpq, hpq]⟩

/-- A leaf heeds its path if some scalar makes a difference to its condition. -/
theorem heeds_leaf {l : Leaf} {s : Scalar}
    (h : l.condition.holds (.scalar s) ≠ l.condition.holds .null) :
    (Predicate.leaf l).Heeds l.field.segments := by
  refine ⟨.nest l.field.segments (.leaf s), .nest l.field.segments .null,
    fun other hother => Entity.findings_nest_other hother s, ?_⟩
  have hscalar : Entity.findings [] (.leaf s) = [.scalar s] := by
    simp [Entity.findings, Entity.resolve, Entity.itemFindings]
  simpa [holds, Leaf.holds, Entity.findings_nest, hscalar, Entity.findings_null] using h

end Heeds

/-- A predicate whose paths are in the grammar is read right. -/
theorem readRight_of_inGrammar {p : Predicate}
    (h : ∀ l ∈ p.leaves, Expression.InGrammar l.field.text) : p.ReadRight :=
  ⟨_, parse_text h, (indistinct_collapseBy Leaf.indistinct_canonical p).holds⟩

/-- No predicate that is read right heeds a path outside the grammar. -/
theorem ReadRight.inGrammar {p : Predicate} {field : String} (h : p.ReadRight)
    (hheeds : p.Heeds (pathSegments field)) : Expression.InGrammar field := by
  obtain ⟨q, hread, hsame⟩ := h
  exact Expression.inGrammar_of_parse hread field (mem_fields_of_heeds (hheeds.congr hsame))

/-- A predicate that heeds each of its paths outside the grammar is read right exactly if there is
none. A leaf heeds its path, unless no scalar at all makes a difference to its condition. -/
theorem readRight_iff (p : Predicate) :
    ((∀ l ∈ p.leaves, ¬ Expression.InGrammar l.field.text → p.Heeds l.field.segments) →
      (p.ReadRight ↔ ∀ l ∈ p.leaves, Expression.InGrammar l.field.text)) ∧
    ∀ (l : Leaf) (s : Scalar), p = .leaf l →
      l.condition.holds (.scalar s) ≠ l.condition.holds .null →
        (p.ReadRight ↔ Expression.InGrammar l.field.text) := by
  have hiff : (∀ l ∈ p.leaves, ¬ Expression.InGrammar l.field.text → p.Heeds l.field.segments) →
      (p.ReadRight ↔ ∀ l ∈ p.leaves, Expression.InGrammar l.field.text) := by
    intro hheeds
    refine ⟨fun hright l hl => ?_, readRight_of_inGrammar⟩
    by_contra hout
    exact hout (hright.inGrammar (hheeds l hl hout))
  refine ⟨hiff, fun l s hp hs => ?_⟩
  subst hp
  have hleaves : (Predicate.leaf l).leaves = [l] := rfl
  rw [hleaves, List.forall_mem_singleton, List.forall_mem_singleton] at hiff
  exact hiff fun _ => heeds_leaf hs

/-- The leaf `site name = "depot"`. -/
def spacedLeaf : Leaf where
  field := ⟨"site name", by decide +kernel⟩
  condition := .comparison .eq ⟨.text "depot", rfl⟩

/-- The path of the leaf holds a blank. -/
theorem spacedLeaf_outside : ¬ Expression.InGrammar spacedLeaf.field.text := by
  intro h
  have hchars : spacedLeaf.field.text.toList = ['s', 'i', 't', 'e', ' ', 'n', 'a', 'm', 'e'] := rfl
  have hblank : ' ' ∈ spacedLeaf.field.text.toList := by simp [hchars]
  exact absurd (h.1 ' ' hblank) (by decide)

theorem spacedLeaf_heeds :
    spacedLeaf.condition.holds (.scalar (.text "depot")) ≠ spacedLeaf.condition.holds .null := by
  decide +kernel

/-- `site name = "depot"` is not read back, be it the whole predicate or the only child of one. -/
theorem readRight_iff_spaced :
    ¬ (Predicate.compound .and [.leaf spacedLeaf]).ReadRight ∧
      spacedLeaf.condition.holds (.scalar (.text "depot")) ≠ spacedLeaf.condition.holds .null ∧
      ¬ (Predicate.leaf spacedLeaf).ReadRight := by
  have hleaves : (Predicate.compound .and [.leaf spacedLeaf]).leaves = [spacedLeaf] := by
    simp [leaves, leavesOf]
  refine ⟨fun hright => ?_, spacedLeaf_heeds, fun hright => ?_⟩
  · refine spacedLeaf_outside (((readRight_iff _).1 fun l hl _ => ?_).1 hright spacedLeaf ?_)
    · rw [hleaves, List.mem_singleton] at hl
      subst hl
      exact (heeds_leaf spacedLeaf_heeds).congr fun e => by simp [holds, holdsAll]
    · simp [hleaves]
  · exact spacedLeaf_outside (((readRight_iff _).2 _ (.text "depot") rfl spacedLeaf_heeds).1 hright)

/-- The leaf `tier = 1 OR site = "depot"`, all before the last sign of equality being its path. -/
def forkedLeaf : Leaf where
  field := ⟨"tier = 1 OR site", by decide +kernel⟩
  condition := .comparison .eq ⟨.text "depot", rfl⟩

/-- The text of one leaf is read as two, one of which holds of an entity that the leaf refuses; the
text of another is not read at all. -/
theorem forkedLeaf_misread :
    (∃ q e, parse (Predicate.leaf forkedLeaf).text = .ok q ∧ q.holds e = true ∧
      (Predicate.leaf forkedLeaf).holds e = false) ∧
    ∃ fault, parse (Predicate.leaf spacedLeaf).text = .error fault := by
  refine ⟨?_, _, by rfl⟩
  let e : Entity := .map [("tier", .leaf (.int 1))]
  have hread : (parse (Predicate.leaf forkedLeaf).text).toOption.map (holds e) = some true := by
    decide +kernel
  have hrefused : (Predicate.leaf forkedLeaf).holds e = false := by
    decide +kernel
  obtain ⟨q, hq, hholds⟩ := Expression.ok_of_map hread
  exact ⟨q, e, hq, hholds, hrefused⟩

end Predicate
end Sieve
