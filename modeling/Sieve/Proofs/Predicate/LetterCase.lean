import Mathlib
import Sieve.Proofs.Matching.Leaves
import Sieve.Proofs.Sql.DocumentLeaf
import Sieve.Proofs.Sql.Opacity
import Sieve.Proofs.Text.LetterCase

/-!
# Sieve.Proofs.Predicate.LetterCase

Fields whose names differ only in the case of ASCII letters. A name is folded in three ways: by
`Text.asciiLower` as the root of a path and in the catalog, by `Text.lower` inside a path, and by
`Text.sameIgnoringCase` as the name of a member. The first and the last say the same, and the second
goes through the first (`Text.lower_asciiLower`), so none of them tells such fields apart:
`Predicate.recased_alike`. Only the keys of maps are looked up as they are written.
-/

namespace Sieve

theorem pathSegments_asciiLower (s : String) :
    pathSegments (Text.asciiLower s) = (pathSegments s).map Text.asciiLower := by
  have hpoint (c : Char) : c.toLower = '.' ↔ c = '.' := Text.toLower_eq_iff (by decide) c
  rw [pathSegments, Text.asciiLower, String.toList_ofList, Text.split_map_toLower hpoint,
    pathSegments, List.map_map, List.map_map]
  refine List.map_congr_left fun piece _ => ?_
  simp [Text.asciiLower]

namespace FieldPath

/-- Paths that differ only in the case of ASCII letters. -/
def Recased (a b : FieldPath) : Prop := Text.asciiLower a.text = Text.asciiLower b.text

section Recased

variable {a b : FieldPath}

instance : Decidable (a.Recased b) :=
  inferInstanceAs (Decidable (Text.asciiLower a.text = Text.asciiLower b.text))

theorem Recased.segments (h : a.Recased b) :
    a.segments.map Text.asciiLower = b.segments.map Text.asciiLower := by
  rw [FieldPath.segments, FieldPath.segments, ← pathSegments_asciiLower, ← pathSegments_asciiLower]
  exact congrArg pathSegments h

theorem Recased.root (h : a.Recased b) : Text.asciiLower a.root = Text.asciiLower b.root := by
  have hsegments := h.segments
  rw [segments_eq, segments_eq, List.map_cons, List.map_cons] at hsegments
  exact (List.cons.inj hsegments).1

theorem Recased.nested (h : a.Recased b) : a.nested.map Text.lower = b.nested.map Text.lower := by
  have hsegments := h.segments
  rw [segments_eq, segments_eq, List.map_cons, List.map_cons] at hsegments
  have hlower : Text.lower = Text.lower ∘ Text.asciiLower :=
    funext fun s => (Text.lower_asciiLower s).symm
  rw [hlower, ← List.map_map, ← List.map_map, (List.cons.inj hsegments).2]

end Recased

end FieldPath

namespace Predicate

/-- Predicates that differ only in the case of ASCII letters in the names of their fields. -/
def Recased : Predicate → Predicate → Prop :=
  Corresponds fun a b => a.field.Recased b.field ∧ a.condition = b.condition

mutual

theorem holds_corresponds {related : Leaf → Leaf → Prop} {e : Entity}
    (h : ∀ {a b}, related a b → a.holds e = b.holds e) : ∀ {p q : Predicate},
    Corresponds related p q → p.holds e = q.holds e
  | _, _, .matchAll => rfl
  | _, _, .leaf hleaf => by
    rw [holds, holds]
    exact h hleaf
  | _, _, .compound .nil => rfl
  | .compound .and _, _, .compound (.cons hp hs) => by
    rw [holds, holds, holds_corresponds h hp, holdsAll_corresponds h hs]
  | .compound .or _, _, .compound (.cons hp hs) => by
    rw [holds, holds, holds_corresponds h hp, holdsAny_corresponds h hs]

theorem holdsAll_corresponds {related : Leaf → Leaf → Prop} {e : Entity}
    (h : ∀ {a b}, related a b → a.holds e = b.holds e) : ∀ {ps qs : List Predicate},
    AllCorrespond related ps qs → holdsAll e ps = holdsAll e qs
  | _, _, .nil => rfl
  | _, _, .cons hp hs => by
    rw [holdsAll, holdsAll, holds_corresponds h hp, holdsAll_corresponds h hs]

theorem holdsAny_corresponds {related : Leaf → Leaf → Prop} {e : Entity}
    (h : ∀ {a b}, related a b → a.holds e = b.holds e) : ∀ {ps qs : List Predicate},
    AllCorrespond related ps qs → holdsAny e ps = holdsAny e qs
  | _, _, .nil => rfl
  | _, _, .cons hp hs => by
    rw [holdsAny, holdsAny, holds_corresponds h hp, holdsAny_corresponds h hs]

end

end Predicate

namespace Sql

variable {catalog : Catalog}

mutual

theorem arguments_corresponds {related : Leaf → Leaf → Prop}
    (h : ∀ {a b}, related a b → leafArguments catalog a = leafArguments catalog b) :
    ∀ {p q : Predicate}, Predicate.Corresponds related p q →
    arguments catalog p = arguments catalog q
  | _, _, .matchAll => rfl
  | _, _, .leaf hleaf => by
    rw [arguments, arguments]
    exact h hleaf
  | _, _, .compound hs => by
    rw [arguments, arguments]
    exact argumentsOf_corresponds h hs

theorem argumentsOf_corresponds {related : Leaf → Leaf → Prop}
    (h : ∀ {a b}, related a b → leafArguments catalog a = leafArguments catalog b) :
    ∀ {ps qs : List Predicate}, Predicate.AllCorrespond related ps qs →
    argumentsOf catalog ps = argumentsOf catalog qs
  | _, _, .nil => rfl
  | _, _, .cons hp hs => by
    rw [argumentsOf, argumentsOf, arguments_corresponds h hp, argumentsOf_corresponds h hs]

end

theorem targetOf_recased {a b : Leaf} (h : a.field.Recased b.field) :
    targetOf catalog a = targetOf catalog b := by
  simp only [targetOf, Catalog.columnFor, h.root, h.nested]

theorem compileFrom_recased {p q : Predicate} (h : p.Recased q) (first : Nat) :
    compileFrom catalog p first = compileFrom catalog q first := by
  have hleaf {a b : Leaf} (hab : a.field.Recased b.field ∧ a.condition = b.condition) :
      leafArguments catalog a = leafArguments catalog b ∧
        ∀ first, leafTest catalog a first = leafTest catalog b first := by
    simp only [leafArguments, leafTest, targetOf_recased hab.1, hab.2, implies_true, and_self]
  have harguments : arguments catalog p = arguments catalog q :=
    arguments_corresponds (fun hab => (hleaf hab).1) h
  have htest : test catalog first p = test catalog first q :=
    test_corresponds congruence_id
      ⟨fun hab => congrArg List.length (hleaf hab).1, fun hab => (hleaf hab).2⟩ first h
  rw [compileFrom, compileFrom, htest, harguments]

end Sql

namespace Entity

/-- No map stands anywhere in the entity. -/
inductive MapFree : Entity → Prop where
  | null : MapFree .null
  | leaf (s : Scalar) : MapFree (.leaf s)
  | list {items : List Entity} : (∀ e ∈ items, MapFree e) → MapFree (.list items)
  | record {members : List (String × Entity)} : (∀ m ∈ members, MapFree m.2) →
      MapFree (.record members)

/-- The members of a record are found by names in any case of ASCII letters. -/
theorem child?_record_recased (members : List (String × Entity)) {name name' : String}
    (h : Text.asciiLower name = Text.asciiLower name') :
    (record members).child? name = (record members).child? name' := by
  simp only [child?, Text.sameIgnoringCase, h]

/-- By induction on the entity: a list hands the path on to its items, a record the rest of the path
to the one member that both of its first names lead to. -/
theorem leaves_recased {e : Entity} (h : e.MapFree) {path path' : List String}
    (hpath : path.map Text.asciiLower = path'.map Text.asciiLower) :
    leaves path e = leaves path' e := by
  induction h generalizing path path' with
  | list hitems ih =>
    rw [leaves_list, leaves_list]
    exact List.flatMap_congr fun e he => ih e he hpath
  | null | leaf =>
    cases path <;> cases path' <;> simp only [List.map_nil, List.map_cons, reduceCtorEq] at hpath
    case nil.nil => rfl
    case cons.cons => simp [leaves, child?]
  | @record members hmembers ih =>
    cases path <;> cases path' <;> simp only [List.map_nil, List.map_cons, reduceCtorEq] at hpath
    case nil.nil => rfl
    case cons.cons name rest name' rest' =>
      obtain ⟨hname, hrest⟩ := List.cons.inj hpath
      have hlist : ∀ items, record members ≠ .list items := by simp
      have hchild := child?_record_recased members hname
      cases hc : (record members).child? name' with
      | none => rw [leaves_of_no_child hlist (hchild.trans hc), leaves_of_no_child hlist hc]
      | some c =>
        rw [leaves_of_child (hchild.trans hc), leaves_of_child hc]
        obtain ⟨m, hm, rfl⟩ := Option.map_eq_some_iff.1 hc
        exact ih m (List.mem_of_find?_eq_some hm) hrest

end Entity

namespace Predicate

theorem holds_recased {p q : Predicate} (h : p.Recased q) {e : Entity} (he : e.MapFree) :
    p.holds e = q.holds e := by
  refine holds_corresponds (fun {a b} hab => ?_) h
  rw [Leaf.holds, Leaf.holds, Entity.findings_eq_leaves, Entity.findings_eq_leaves,
    Entity.leaves_recased he hab.1.segments, hab.2]

/-- The case of ASCII letters in the names of fields changes neither the compiled text and its
arguments, whatever the catalog and wherever the placeholders start, nor which entities without maps
satisfy a predicate. -/
theorem recased_alike {p q : Predicate} (h : p.Recased q) :
    (∀ (catalog : Sql.Catalog) (first : Nat), 1 ≤ first → ∃ c,
      Sql.compileFrom? catalog p first = .ok c ∧ Sql.compileFrom? catalog q first = .ok c) ∧
    ∀ e : Entity, e.MapFree → p.holds e = q.holds e := by
  refine ⟨fun catalog first hfirst => ⟨Sql.compileFrom catalog q first, ?_, ?_⟩,
    fun e he => holds_recased h he⟩
  · rw [Sql.compileFrom?, if_neg (by omega), Sql.compileFrom_recased h]
  · rw [Sql.compileFrom?, if_neg (by omega)]

/-- `Meta.Größe > 3` and `mETA.gRößE > 3`, beside a test of `Tags` and of `TAGS`. -/
theorem recased_alike_size :
    let larger : Condition := .comparison .gt ⟨.int 3, rfl⟩
    let p := Predicate.compound .and [
      .leaf ⟨⟨"Meta.Größe", by decide +kernel⟩, larger⟩,
      .leaf ⟨⟨"Tags", by decide +kernel⟩, .nullness true⟩]
    let q := Predicate.compound .and [
      .leaf ⟨⟨"mETA.gRößE", by decide +kernel⟩, larger⟩,
      .leaf ⟨⟨"TAGS", by decide +kernel⟩, .nullness true⟩]
    let catalog :=
      (Sql.Catalog.empty.withMapping "META" "Documents").withDocument "DOCUMENTS" .scalar
    let e := Entity.record [
      ("meta", .record [("größe", .leaf (.int 7)), ("GRößE", .leaf (.int 2))]),
      ("tags", .list [.null, .leaf (.text "a")])]
    p.Recased q ∧ 1 ≤ 4 ∧ e.MapFree ∧
      (∃ c, Sql.compileFrom? catalog p 4 = .ok c ∧ Sql.compileFrom? catalog q 4 = .ok c) ∧
      p.holds e = q.holds e ∧ p.holds e = true := by
  intro larger p q catalog e
  have hrecased : p.Recased q :=
    .compound (.cons (.leaf ⟨by decide +kernel, rfl⟩) (.cons (.leaf ⟨by decide +kernel, rfl⟩) .nil))
  have hmeta : Entity.MapFree
      (.record [("größe", .leaf (.int 7)), ("GRößE", .leaf (.int 2))]) :=
    .record (by simp [Entity.MapFree.leaf])
  have htags : Entity.MapFree (.list [.null, .leaf (.text "a")]) :=
    .list (by simp [Entity.MapFree.leaf, Entity.MapFree.null])
  have hfree : e.MapFree := .record (by simp [hmeta, htags])
  obtain ⟨hcompile, hholds⟩ := recased_alike hrecased
  exact ⟨hrecased, by decide, hfree, hcompile catalog 4 (by decide), hholds e hfree,
    by decide +kernel⟩

end Predicate
end Sieve
