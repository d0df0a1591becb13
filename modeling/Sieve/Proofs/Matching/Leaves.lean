import Mathlib
import Sieve.Proofs.Matching.Judgement

/-!
# Sieve.Proofs.Matching.Leaves

The leaves of a path: what the path leads to in an entity, without regard to where it fails. A list
has the leaves of all its items, in order; a name that cannot be followed leads to null.

* `Entity.leaves` is defined on entities and paths alone; `findings_eq_leaves`.
* `resolve_of_meetsList` and `resolve_of_not_meetsList`: what `Entity.resolve` answers, told whether
  a list is met on the way.
* `Leaf.holds_iff_leaves`: a leaf of a predicate holds if some leaf of its path satisfies its
  condition; `matching_leaves` puts all of it together.
-/

namespace Sieve

namespace Entity

/-- The member that a name leads to: a map is entered by the exact key, a record by the first name
that is equal in ASCII letters of any case. -/
def child? (segment : String) : Entity → Option Entity
  | .map entries => (entries.find? fun entry => entry.1 == segment).map (·.2)
  | .record members =>
    (members.find? fun member => Text.sameIgnoringCase member.1 segment).map (·.2)
  | _ => none

theorem sizeOf_found {fits : String × Entity → Bool} {members : List (String × Entity)}
    {e : Entity} (h : (members.find? fits).map (·.2) = some e) : sizeOf e < sizeOf members := by
  obtain ⟨⟨name, e⟩, hfound, rfl⟩ := Option.map_eq_some_iff.1 h
  have hsize := List.sizeOf_lt_of_mem (List.mem_of_find?_eq_some hfound)
  simp only [Prod.mk.sizeOf_spec] at hsize ⊢
  omega

theorem sizeOf_child? {segment : String} {e c : Entity} (h : e.child? segment = some c) :
    sizeOf c < sizeOf e := by
  cases e with
  | map entries =>
    have hsize := sizeOf_found h
    simp only [map.sizeOf_spec]
    omega
  | record members =>
    have hsize := sizeOf_found h
    simp only [record.sizeOf_spec]
    omega
  | _ => cases h

/-- What a path leads to, null wherever it leads nowhere. -/
def leaves : List String → Entity → List Found
  | segments, .list items => items.attach.flatMap fun ⟨e, _⟩ => leaves segments e
  | [], .null => [.null]
  | [], .leaf s => [.scalar s]
  | [], _ => [.composite]
  | segment :: rest, e =>
    match _h : e.child? segment with
    | some c => leaves rest c
    | none => [.null]
termination_by _ e => sizeOf e
decreasing_by
  · have hsize := List.sizeOf_lt_of_mem ‹_ ∈ items›
    simp only [list.sizeOf_spec]
    omega
  · exact sizeOf_child? ‹e.child? segment = some c›

/-- A list stands at the end of a path or on the way. -/
def MeetsList : List String → Entity → Prop
  | _, .list _ => True
  | [], _ => False
  | segment :: rest, e =>
    match e.child? segment with
    | some c => MeetsList rest c
    | none => False

section Leaves

variable {segment : String} {rest : List String} {e c : Entity}

theorem leaves_list (segments : List String) (items : List Entity) :
    leaves segments (.list items) = items.flatMap (leaves segments) := by
  rw [leaves, List.flatMap_subtype fun e he => rfl, List.unattach_attach]

theorem not_list_of_child (h : e.child? segment = some c) (items : List Entity) :
    e ≠ .list items := by
  rintro rfl
  cases h

theorem leaves_of_child (h : e.child? segment = some c) :
    leaves (segment :: rest) e = leaves rest c := by
  rw [leaves]
  · split
    · next d hd =>
      rw [h, Option.some.injEq] at hd
      rw [hd]
    · next hd =>
      rw [h] at hd
      cases hd
  · exact not_list_of_child h

theorem leaves_of_no_child (hlist : ∀ items, e ≠ .list items) (h : e.child? segment = none) :
    leaves (segment :: rest) e = [.null] := by
  rw [leaves]
  · split
    · next d hd =>
      rw [h] at hd
      cases hd
    · rfl
  · exact hlist

theorem resolveMember_eq (fits : String → Bool) (members : List (String × Entity)) :
    resolveMember fits segment rest members =
      match (members.find? fun member => fits member.1).map (·.2) with
      | some c => resolve rest c
      | none => .error (.missing segment) := by
  induction members with
  | nil => simp [resolveMember]
  | cons member more ih =>
    obtain ⟨name, e⟩ := member
    rw [resolveMember, List.find?_cons]
    cases hfits : fits name with
    | true => simp
    | false => simpa using ih

theorem resolve_of_child (h : e.child? segment = some c) :
    resolve (segment :: rest) e = resolve rest c := by
  cases e with
  | map entries =>
    rw [child?] at h
    rw [resolve, resolveMember_eq, h]
  | record members =>
    rw [child?] at h
    rw [resolve, resolveMember_eq, h]
  | _ => cases h

theorem resolve_of_no_child (rest : List String) (hlist : ∀ items, e ≠ .list items)
    (h : e.child? segment = none) :
    ∃ fault, resolve (segment :: rest) e = .error fault := by
  cases e with
  | list items => exact absurd rfl (hlist items)
  | null => exact ⟨_, by rw [resolve]⟩
  | leaf s => exact ⟨_, by rw [resolve]⟩
  | map entries =>
    rw [child?] at h
    exact ⟨.missing segment, by rw [resolve, resolveMember_eq, h]⟩
  | record members =>
    rw [child?] at h
    exact ⟨.missing segment, by rw [resolve, resolveMember_eq, h]⟩

/-- Whatever the resolver answers, it has found the leaves of the path: a fault counts as null. -/
theorem findings_eq_leaves (segments : List String) (e : Entity) :
    findings segments e = leaves segments e := by
  induction segments, e using leaves.induct with
  | case1 segments items ih =>
    rw [findings_list, leaves_list]
    exact List.flatMap_congr fun e he => ih e he
  | case2 => simp [findings, resolve, itemFindings, leaves]
  | case3 s => simp [findings, resolve, itemFindings, leaves]
  | case4 e hlist hnull hleaf =>
    cases e with
    | map entries => simp [findings, resolve, itemFindings, leaves]
    | record members => simp [findings, resolve, itemFindings, leaves]
    | null => exact absurd rfl hnull
    | leaf s => exact absurd rfl (hleaf s)
    | list items => exact absurd rfl (hlist items)
  | case5 segment rest e hlist c h ih =>
    rw [leaves_of_child h, ← ih, findings, resolve_of_child h, findings]
  | case6 segment rest e hlist h =>
    obtain ⟨fault, hfault⟩ := resolve_of_no_child rest hlist h
    rw [leaves_of_no_child hlist h, findings, hfault, itemFindings]

theorem meetsList_of_child (h : e.child? segment = some c) :
    MeetsList (segment :: rest) e ↔ MeetsList rest c := by
  rw [MeetsList, h]
  exact not_list_of_child h

/-- Once a list is met, the answer is the list of all leaves. -/
theorem resolve_of_meetsList {segments : List String} (h : MeetsList segments e) :
    resolve segments e = .ok (.many (leaves segments e)) := by
  induction segments generalizing e with
  | nil =>
    cases e with
    | list items => rw [← findings_eq_leaves, findings, resolve, itemFindings]
    | _ => simp [MeetsList] at h
  | cons segment rest ih =>
    by_cases hlist : ∃ items, e = .list items
    · obtain ⟨items, rfl⟩ := hlist
      rw [← findings_eq_leaves, findings, resolve, itemFindings]
    · rw [not_exists] at hlist
      cases hc : e.child? segment with
      | some c =>
        rw [resolve_of_child hc, leaves_of_child hc]
        exact ih ((meetsList_of_child hc).1 h)
      | none =>
        rw [MeetsList, hc] at h
        · exact h.elim
        · exact hlist

/-- As long as no list is met, the path leads to one leaf, or fails and counts as null. -/
theorem resolve_of_not_meetsList {segments : List String} (h : ¬ MeetsList segments e) :
    (∃ f, resolve segments e = .ok (.one f) ∧ leaves segments e = [f]) ∨
      ∃ fault, resolve segments e = .error fault ∧ leaves segments e = [.null] := by
  induction segments generalizing e with
  | nil =>
    refine .inl ?_
    cases e with
    | list items => exact absurd trivial h
    | _ => exact ⟨_, by rw [resolve], by rw [leaves] <;> simp⟩
  | cons segment rest ih =>
    have hlist : ∀ items, e ≠ .list items := by
      rintro items rfl
      exact h trivial
    cases hc : e.child? segment with
    | some c =>
      rw [resolve_of_child hc, leaves_of_child hc]
      exact ih (mt (meetsList_of_child hc).2 h)
    | none =>
      obtain ⟨fault, hfault⟩ := resolve_of_no_child rest hlist hc
      exact .inr ⟨fault, hfault, leaves_of_no_child hlist hc⟩

end Leaves

/-- The items of a list, of the lists among them and so on; an entity that is no list is its own
element. -/
def elements : Entity → List Entity
  | .list items => items.attach.flatMap fun ⟨e, _⟩ => elements e
  | e => [e]
termination_by e => sizeOf e
decreasing_by
  have hsize := List.sizeOf_lt_of_mem ‹_ ∈ items›
  simp only [list.sizeOf_spec]
  omega

theorem elements_list (items : List Entity) :
    elements (.list items) = items.flatMap elements := by
  rw [elements, List.flatMap_subtype fun e he => rfl, List.unattach_attach]

theorem leaves_elements (segments : List String) (e : Entity) :
    leaves segments e = e.elements.flatMap (leaves segments) := by
  induction e using elements.induct with
  | case1 items ih =>
    rw [elements_list, leaves_list, List.flatMap_assoc]
    exact List.flatMap_congr fun e he => ih e he
  | case2 e hlist =>
    rw [elements, List.flatMap_singleton]
    exact hlist

end Entity

/-- What a path leads to satisfies an operator with an operand: a map or a record only the test for
no null, null only the test for null, and a scalar if it is judged so. -/
def Found.Satisfies (op : Operator) (expected : Value) : Found → Prop
  | .null => op = .nullness false
  | .scalar s => Value.judge? op (.scalar s) expected = some true
  | .composite => op = .nullness true

theorem Condition.holds_iff_satisfies (c : Condition) (f : Found) :
    c.holds f = true ↔ f.Satisfies c.operator c.value := by
  cases f with
  | scalar s => rw [Found.Satisfies, c.judge?_scalar, Option.some.injEq, Condition.holds]
  | _ => exact beq_iff_eq

theorem Leaf.holds_iff_leaves (l : Leaf) (e : Entity) :
    l.holds e = true ↔ ∃ f ∈ e.leaves l.field.segments,
      f.Satisfies l.condition.operator l.condition.value := by
  rw [Leaf.holds, Entity.findings_eq_leaves, List.any_eq_true]
  exact exists_congr fun f => and_congr_right fun _ => l.condition.holds_iff_satisfies f

/-- A list of any depth satisfies a leaf if one of its elements does. -/
theorem Leaf.holds_iff_elements (l : Leaf) (e : Entity) :
    l.holds e = true ↔ ∃ x ∈ e.elements, l.holds x = true := by
  simp only [holds_iff_leaves]
  rw [Entity.leaves_elements]
  simp only [List.mem_flatMap]
  constructor
  · rintro ⟨f, ⟨x, hx, hf⟩, hsat⟩
    exact ⟨x, hx, f, hf, hsat⟩
  · rintro ⟨x, hx, f, hf, hsat⟩
    exact ⟨f, ⟨x, hx, hf⟩, hsat⟩

namespace Entity

/-- What a path is resolved to, and what it means for an entity to satisfy a leaf. A path that meets
a list leads to exactly the leaves, all in one list; a path that meets none leads to its only leaf
or fails, and then the only leaf is null. A leaf holds if one of the leaves of its path satisfies
its operator, and of a list if it holds of one of the elements. -/
theorem matching_leaves (e : Entity) :
    (∀ path,
      (e.MeetsList (pathSegments path) ∧
          e.resolvePath path = .ok (.many (e.leaves (pathSegments path)))) ∨
        (¬ e.MeetsList (pathSegments path) ∧
          ((∃ f, e.resolvePath path = .ok (.one f) ∧ e.leaves (pathSegments path) = [f]) ∨
            ∃ fault, e.resolvePath path = .error fault ∧
              e.leaves (pathSegments path) = [.null]))) ∧
      ∀ l : Leaf,
        ((Predicate.leaf l).holds e = true ↔
          ∃ f ∈ e.leaves l.field.segments,
            f.Satisfies l.condition.operator l.condition.value) ∧
        ((Predicate.leaf l).holds e = true ↔
          ∃ x ∈ e.elements, (Predicate.leaf l).holds x = true) := by
  refine ⟨fun path => ?_, fun l => ⟨?_, ?_⟩⟩
  · by_cases hlist : e.MeetsList (pathSegments path)
    · exact .inl ⟨hlist, resolve_of_meetsList hlist⟩
    · exact .inr ⟨hlist, resolve_of_not_meetsList hlist⟩
  · exact l.holds_iff_leaves e
  · exact l.holds_iff_elements e

end Entity
end Sieve
