import Sieve.Predicate.Wire
import Sieve.Proofs.Json.Documents

/-!
# Sieve.Proofs.Predicate.Wire

Predicates survive their JSON form. The document of a predicate holds the same predicate, its
integers signed where they fit (`ofJson_toJson`). The text of the document does, too, as long as the
predicate is not nested too deep for the reader, provided that its numbers survive
(`readJson_toJson`).
-/

namespace Sieve

namespace Value

theorem ofJson?_scalar {s : Scalar} (h : s.isFinite = true) :
    ofJson? s.toJson = some (.scalar s.canonical) := by
  cases s with
  | bool b => rfl
  | text s => rfl
  | int n =>
    have hsmall : (Integer64.ofInt64 n).toInt64? = some n := by
      have hlt : (Integer64.ofInt64 n).val < 2 ^ 63 := n.toInt_lt
      rw [Integer64.toInt64?, if_pos hlt]
      exact congrArg some (Int64.ofInt_toInt n)
    rw [Scalar.toJson, ofJson?, hsmall]
    rfl
  | uint n =>
    rw [Scalar.toJson, ofJson?, Scalar.canonical, Integer64.toInt64?]
    have hval : (Integer64.ofUInt64 n).val = n.toNat := rfl
    by_cases hn : n.toNat < 2 ^ 63
    · have hsmall : (Integer64.ofUInt64 n).val < 2 ^ 63 := by omega
      rw [if_pos hn, if_pos hsmall]
      rfl
    · have hlarge : ¬ (Integer64.ofUInt64 n).val < 2 ^ 63 := by omega
      rw [if_neg hn, if_neg hlarge, hval, Int.toNat_natCast, UInt64.ofNat_toNat]
  | float x =>
    cases x with
    | finite x => rfl
    | infinite negative => cases h
    | nan => cases h

theorem ofJsonItems?_scalars (items : List Operand) :
    ofJsonItems? (toJsonItems (items.map fun o => .scalar o.scalar)) =
      some ((items.map Operand.canonical).map fun o => .scalar o.scalar) := by
  induction items with
  | nil => rfl
  | cons o items ih =>
    simp only [List.map_cons, toJsonItems, ofJsonItems?, ih]
    rw [toJson, ofJson?_scalar o.finite]
    rfl

/-- The operand of a condition comes back from its document. -/
theorem ofJson?_value (c : Condition) : ofJson? c.value.toJson = some c.canonical.value := by
  cases c with
  | comparison op o => exact ofJson?_scalar o.finite
  | membership negated items =>
    rw [Condition.value, toJson, ofJson?, ofJsonItems?_scalars]
    rfl
  | textual test o => exact ofJson?_scalar o.finite
  | nullness negated => rfl

end Value

namespace Predicate

section Members

variable {members : Entries Json}

theorem ofJson_leafMembers (htype : Entries.get? "type" members = none)
    (hchildren : children? members = none) : ofJson (.object members) = ofLeafMembers members := by
  rw [ofJson, htype]
  dsimp only
  split
  · rfl
  · rename_i heq
    rw [hchildren] at heq
    cases heq
  · rename_i heq
    rw [hchildren] at heq
    cases heq

theorem ofJson_childMembers {items : List Json} {c : Conjunction}
    (htype : Entries.get? "type" members = none)
    (hchildren : children? members = some (.array items))
    (hconjunction : readConjunction members = .ok c) :
    ofJson (.object members) = (ofJsonChildren 0 items).map (.compound c) := by
  rw [ofJson, htype]
  dsimp only
  split
  · rename_i heq
    rw [hchildren] at heq
    cases heq
  · rename_i heq
    rw [hchildren] at heq
    cases heq
    rw [hconjunction]
  · rename_i hne heq
    rw [hchildren] at heq
    cases heq
    exact absurd rfl (hne items)

end Members

/-- The member for the operand, unless the operator takes none. -/
def valueMembers : Condition → List (String × Json)
  | .nullness _ => []
  | c => [("value", c.value.toJson)]

/-- The members of the document of a leaf. -/
def leafMembers (l : Leaf) : List (String × Json) :=
  ("field", .text l.field.text) :: ("operator", .text l.condition.operator.token) ::
    valueMembers l.condition

def childMembers (c : Conjunction) (ps : List Predicate) : List (String × Json) :=
  [("operator", .text c.token), ("predicates", .array (toJsonChildren ps))]

theorem sorted_leafMembers (l : Leaf) : Entries.Sorted (leafMembers l) := by
  have hshort : ["field", "operator"].Pairwise (· < ·) := by decide
  have hlong : ["field", "operator", "value"].Pairwise (· < ·) := by decide
  refine Entries.sorted_iff.2 ?_
  unfold leafMembers
  cases l.condition with
  | nullness negated => exact hshort
  | _ => exact hlong

theorem sorted_childMembers (c : Conjunction) (ps : List Predicate) :
    Entries.Sorted (childMembers c ps) := by
  have hkeys : ["operator", "predicates"].Pairwise (· < ·) := by decide
  exact Entries.sorted_iff.2 hkeys

theorem toJson_matchAll : toJson .matchAll = .object [("type", .text matchAllTag)] := by
  rw [toJson]
  rfl

theorem toJson_leaf (l : Leaf) : toJson (.leaf l) = .object (leafMembers l) := by
  have hsorted := Entries.ofPairs_of_sorted (sorted_leafMembers l)
  rw [← hsorted, toJson, leafToJson, leafMembers]
  cases l.condition <;> rfl

theorem toJson_compound (c : Conjunction) (ps : List Predicate) :
    toJson (.compound c ps) = .object (childMembers c ps) := by
  rw [← Entries.ofPairs_of_sorted (sorted_childMembers c ps), toJson, childMembers]
  rfl

mutual

/-- Every leaf with the canonical scalars. -/
def canonical : Predicate → Predicate
  | .matchAll => .matchAll
  | .leaf l => .leaf l.canonical
  | .compound c ps => .compound c (canonicalAll ps)

def canonicalAll : List Predicate → List Predicate
  | [] => []
  | p :: ps => canonical p :: canonicalAll ps

end

mutual

theorem same_canonical : ∀ p : Predicate, p.canonical.same p = true
  | .matchAll => by rw [canonical, same]
  | .leaf l => by
    rw [canonical]
    exact l.same_canonical
  | .compound c ps => by
    rw [canonical, same, same_canonicalAll ps, decide_eq_true rfl]
    rfl

theorem same_canonicalAll : ∀ ps : List Predicate, sameChildren (canonicalAll ps) ps = true
  | [] => by rw [canonicalAll, sameChildren]
  | p :: ps => by
    rw [canonicalAll, sameChildren, same_canonical p, same_canonicalAll ps]
    rfl

end

/-! ## Documents -/

section Lookups

variable (l : Leaf)

theorem requiredText_field : requiredText "field" (leafMembers l) = .ok l.field.text := by
  simp [requiredText, leafMembers, Entries.get?, Json.text?]

theorem requiredText_operator :
    requiredText "operator" (leafMembers l) = .ok l.condition.operator.token := by
  simp [requiredText, leafMembers, Entries.get?, Json.text?]

theorem get?_type_leaf : Entries.get? "type" (leafMembers l) = none := by
  unfold leafMembers
  cases l.condition <;> simp [valueMembers, Entries.get?]

theorem children?_leaf : children? (leafMembers l) = none := by
  unfold leafMembers
  cases l.condition <;> simp [valueMembers, children?, Entries.get?]

/-- The operand of a leaf as it is found in the document; no member stands for null. -/
theorem value_leaf : (match Entries.get? "value" (leafMembers l) with
    | none => some .null
    | some j => Value.ofJson? j) = some l.condition.canonical.value := by
  have hvalue := Value.ofJson?_value l.condition
  unfold leafMembers
  cases hc : l.condition with
  | nullness negated => simp [valueMembers, Entries.get?, Condition.canonical, Condition.value]
  | _ =>
    rw [hc] at hvalue
    simp [valueMembers, Entries.get?, hvalue]

theorem readConjunction_child (c : Conjunction) (ps : List Predicate) :
    readConjunction (childMembers c ps) = .ok c := by
  have hread : Conjunction.read? c.token = some c := by cases c <;> decide
  have hname : requiredText "operator" (childMembers c ps) = .ok c.token := by
    simp [requiredText, childMembers, Entries.get?, Json.text?]
  simp only [readConjunction, hname, bind, Except.bind, hread]

theorem children?_child (c : Conjunction) (ps : List Predicate) :
    children? (childMembers c ps) = some (.array (toJsonChildren ps)) := by
  simp [children?, childMembers, Entries.get?]

theorem get?_type_child (c : Conjunction) (ps : List Predicate) :
    Entries.get? "type" (childMembers c ps) = none := by
  simp [childMembers, Entries.get?]

end Lookups

theorem ofLeafMembers_leaf (l : Leaf) : ofLeafMembers (leafMembers l) = .ok (.leaf l.canonical) := by
  have hmake : make l.field.text l.condition.operator l.condition.canonical.value =
      .ok (.leaf l.canonical) := by
    rw [← l.condition.operator_canonical]
    exact make_leaf l.canonical
  have hvalue := value_leaf l
  simp only [ofLeafMembers, requiredText_field, requiredText_operator, bind, Except.bind,
    Operator.read?_token]
  cases hget : Entries.get? "value" (leafMembers l) with
  | none =>
    rw [hget] at hvalue
    rw [← Option.some.inj hvalue] at hmake
    exact hmake
  | some j =>
    rw [hget] at hvalue
    dsimp only at hvalue ⊢
    rw [hvalue]
    exact hmake

mutual

/-- The document of a predicate holds the predicate. -/
theorem ofJson_toJson : ∀ p : Predicate, ofJson p.toJson = .ok p.canonical
  | .matchAll => by
    have htag : ofTag (.text matchAllTag) = .ok .matchAll := by
      rw [ofTag, if_pos (Text.sameIgnoringCase_iff.2 rfl)]
    rw [toJson_matchAll, ofJson, Entries.get?_cons_self, canonical]
    exact htag
  | .leaf l => by
    rw [toJson_leaf, ofJson_leafMembers (get?_type_leaf l) (children?_leaf l), canonical,
      ofLeafMembers_leaf]
  | .compound c ps => by
    rw [toJson_compound, canonical, ofJson_childMembers (get?_type_child c ps)
      (children?_child c ps) (readConjunction_child c ps), ofJsonChildren_toJson ps 0]
    rfl

theorem ofJsonChildren_toJson : ∀ (ps : List Predicate) (index : Nat),
    ofJsonChildren index (toJsonChildren ps) = .ok (canonicalAll ps)
  | [], index => by rw [toJsonChildren, ofJsonChildren, canonicalAll]
  | p :: ps, index => by
    rw [toJsonChildren, ofJsonChildren, ofJson_toJson p, canonicalAll]
    dsimp only
    rw [ofJsonChildren_toJson ps (index + 1)]
    rfl

end

/-! ## Texts -/

mutual

/-- How deep the document of a predicate is nested. -/
def wireDepth : Predicate → Nat
  | .matchAll => 1
  | .leaf l => if l.condition.operator.isMembership then 2 else 1
  | .compound _ ps => 2 + wireDepthOf ps

/-- The greatest depth of a child. -/
def wireDepthOf : List Predicate → Nat
  | [] => 0
  | p :: ps => max (wireDepth p) (wireDepthOf ps)

end

/-- The printed numbers that are no integers read back by themselves. -/
def NumbersReadBack (p : Predicate) : Prop :=
  ∀ l ∈ p.leaves, ∀ o ∈ l.condition.operands, ∀ x, o.scalar = .float (.finite x) → Json.ReadsBack x

theorem depth_scalar (s : Scalar) : s.toJson.depth = 0 := by
  cases s with
  | float x => cases x <;> rfl
  | _ => rfl

theorem depth_items (items : List Operand) :
    Json.depthItems (Value.toJsonItems (items.map fun o => .scalar o.scalar)) = 0 := by
  induction items with
  | nil => rfl
  | cons o items ih =>
    rw [List.map_cons, Value.toJsonItems, Json.depthItems, Value.toJson, depth_scalar, ih]
    rfl

theorem depth_value (c : Condition) :
    c.value.toJson.depth = if c.operator.isMembership then 1 else 0 := by
  cases c with
  | comparison op o => exact depth_scalar o.scalar
  | textual test o => exact depth_scalar o.scalar
  | nullness negated => rfl
  | membership negated items =>
    rw [Condition.value, Value.toJson, Json.depth, depth_items]
    rfl

theorem depth_leafMembers (l : Leaf) :
    Json.depthMembers (leafMembers l) = l.condition.value.toJson.depth := by
  have htext : ∀ s, Json.depth (.text s) = 0 := fun _ => rfl
  unfold leafMembers
  cases hc : l.condition with
  | nullness negated => rfl
  | _ => simp [valueMembers, Json.depthMembers, htext]

mutual

theorem depth_toJson : ∀ p : Predicate, p.toJson.depth = wireDepth p
  | .matchAll => by
    rw [toJson_matchAll, wireDepth]
    rfl
  | .leaf l => by
    rw [toJson_leaf, wireDepth, Json.depth, depth_leafMembers, depth_value]
    split <;> rfl
  | .compound c ps => by
    rw [toJson_compound, wireDepth, ← depth_toJsonChildren ps]
    simp only [childMembers, Json.depth, Json.depthMembers]
    omega

theorem depth_toJsonChildren : ∀ ps : List Predicate,
    Json.depthItems (toJsonChildren ps) = wireDepthOf ps
  | [] => rfl
  | p :: ps => by
    rw [toJsonChildren, Json.depthItems, wireDepthOf, depth_toJson p, depth_toJsonChildren ps]

end

/-! ### Readable documents -/

theorem readable_scalar {s : Scalar} (h : ∀ x, s = .float (.finite x) → Json.ReadsBack x) :
    s.toJson.Readable := by
  cases s with
  | float x => cases x with
    | finite x => exact h x rfl
    | infinite negative => trivial
    | nan => trivial
  | _ => trivial

theorem readable_items {items : List Operand}
    (h : ∀ o ∈ items, ∀ x, o.scalar = .float (.finite x) → Json.ReadsBack x) :
    Json.ReadableItems (Value.toJsonItems (items.map fun o => .scalar o.scalar)) := by
  induction items with
  | nil => trivial
  | cons o items ih =>
    obtain ⟨ho, hitems⟩ := List.forall_mem_cons.1 h
    exact ⟨readable_scalar ho, ih hitems⟩

theorem readable_value {c : Condition}
    (h : ∀ o ∈ c.operands, ∀ x, o.scalar = .float (.finite x) → Json.ReadsBack x) :
    c.value.toJson.Readable := by
  cases c with
  | comparison op o => exact readable_scalar (h o (List.mem_singleton.2 rfl))
  | membership negated items => exact readable_items h
  | textual test o => exact readable_scalar (h o (List.mem_singleton.2 rfl))
  | nullness negated => trivial

theorem readable_leaf {l : Leaf}
    (h : ∀ o ∈ l.condition.operands, ∀ x, o.scalar = .float (.finite x) → Json.ReadsBack x) :
    (toJson (.leaf l)).Readable := by
  have hvalue := readable_value h
  rw [toJson_leaf]
  refine ⟨sorted_leafMembers l, trivial, trivial, ?_⟩
  cases hc : l.condition with
  | nullness negated => trivial
  | _ => exact ⟨hc ▸ hvalue, trivial⟩

mutual

theorem readable_toJson : ∀ p : Predicate, NumbersReadBack p → p.toJson.Readable
  | .matchAll, h => by
    rw [toJson_matchAll]
    exact ⟨List.pairwise_singleton _ _, trivial, trivial⟩
  | .leaf l, h => by
    refine readable_leaf (h l ?_)
    rw [leaves]
    exact List.mem_singleton.2 rfl
  | .compound c ps, h => by
    rw [toJson_compound]
    refine ⟨sorted_childMembers c ps, trivial, readable_toJsonChildren ps fun l hl => h l ?_, trivial⟩
    rw [leaves]
    exact hl

theorem readable_toJsonChildren : ∀ ps : List Predicate,
    (∀ l ∈ leavesOf ps, ∀ o ∈ l.condition.operands, ∀ x, o.scalar = .float (.finite x) →
      Json.ReadsBack x) → Json.ReadableItems (toJsonChildren ps)
  | [], h => trivial
  | p :: ps, h => by
    rw [leavesOf, List.forall_mem_append] at h
    rw [toJsonChildren]
    exact ⟨readable_toJson p h.1, readable_toJsonChildren ps h.2⟩

end

/-- A predicate comes back from its document, its integers signed where they fit and otherwise the
same; and so it does from the text of the document, if that text is not nested deeper than 127
containers. A text that is nested deeper is refused. -/
theorem readJson_toJson (p : Predicate) :
    ofJson p.toJson = .ok p.canonical ∧ p.canonical.same p = true ∧
      (NumbersReadBack p → readJson p.toJson.compact =
        if wireDepth p ≤ 127 then .ok p.canonical else .error (.document .unreadable)) := by
  refine ⟨ofJson_toJson p, same_canonical p, fun h => ?_⟩
  rw [readJson, Json.read?_compact (readable_toJson p h), depth_toJson p, Json.depthLimit]
  by_cases hdepth : wireDepth p ≤ 127
  · rw [if_pos hdepth, if_pos hdepth]
    exact ofJson_toJson p
  · rw [if_neg hdepth, if_neg hdepth]

/-- The leaf `capacity > 41.5`. -/
def capacityOver : Leaf where
  field := ⟨"capacity", by decide +kernel⟩
  condition := .comparison .gt ⟨.float (.finite ⟨false, 83 * 2 ^ 1073, by decide +kernel⟩), rfl⟩

/-- The leaf `site IN (7, "core")`. -/
def siteAmong : Leaf where
  field := ⟨"site", by decide +kernel⟩
  condition := .membership false [⟨.uint 7, rfl⟩, ⟨.text "core", rfl⟩]

theorem readJson_toJson_site :
    let p := Predicate.compound .and [.leaf capacityOver, .leaf siteAmong]
    NumbersReadBack p ∧ wireDepth p = 4 ∧ readJson p.toJson.compact = .ok p.canonical := by
  intro p
  have hnumbers : NumbersReadBack p := by
    intro l hl o ho x hx
    simp only [p, leaves, leavesOf, List.mem_append, List.mem_singleton, List.not_mem_nil,
      or_false] at hl
    rcases hl with rfl | rfl
    · rw [List.mem_singleton.1 ho] at hx
      cases hx
      decide +kernel
    · simp only [siteAmong, Condition.operands, List.mem_cons, List.not_mem_nil, or_false] at ho
      rcases ho with rfl | rfl <;> cases hx
  have hdepth : wireDepth p = 4 := by
    simp only [p, wireDepth, wireDepthOf]
    rfl
  have hread := (readJson_toJson p).2.2 hnumbers
  rw [hdepth, if_pos (by decide)] at hread
  exact ⟨hnumbers, hdepth, hread⟩

end Predicate
end Sieve
