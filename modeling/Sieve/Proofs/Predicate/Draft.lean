import Mathlib
import Sieve.Predicate.Expression
import Sieve.Predicate.Wire
import Sieve.Proofs.Matching.Judgement

/-!
# Sieve.Proofs.Predicate.Draft

Predicates as plain trees of texts, operators and values of any shape, most of which mean nothing.
`Predicate.draft` forgets what a predicate guarantees by type.

* `Draft.Valid`: every path has only names, every operator the operand that it takes.
* `Predicate.make_ok_iff`: a leaf can be made exactly if it is valid.
* `Draft.obtained_iff_valid`: what the readers and constructors give, nested in any way, are the
  valid drafts.
* `Draft.holds?` decides a draft without relying on its shape; on the draft of a predicate it has an
  answer, the one of `Predicate.holds`.
-/

namespace Sieve

/-- The operand that an operator takes: none for a null check, a list of finite scalars for a
membership, one finite scalar for all others. -/
def Operator.Takes : Operator → Value → Prop
  | .nullness _, v => v = .null
  | .membership _, v =>
    ∃ ss : List Scalar, v = .list (ss.map .scalar) ∧ ∀ s ∈ ss, s.isFinite = true
  | _, v => ∃ s, v = .scalar s ∧ s.isFinite = true

inductive Draft where
  | matchAll
  | leaf (field : String) (op : Operator) (value : Value)
  | compound (conjunction : Conjunction) (children : List Draft)

mutual

/-- A predicate without its guarantees. -/
def Predicate.draft : Predicate → Draft
  | .matchAll => .matchAll
  | .leaf l => .leaf l.field.text l.condition.operator l.condition.value
  | .compound c children => .compound c (drafts children)

def drafts : List Predicate → List Draft
  | [] => []
  | p :: ps => p.draft :: drafts ps

end

theorem drafts_eq_map (ps : List Predicate) : drafts ps = ps.map Predicate.draft := by
  induction ps with
  | nil => rfl
  | cons p ps ih => rw [drafts, ih, List.map_cons]

section Make

variable {op : Operator} {v : Value} {c : Condition}

theorem scalarItems?_eq_some {items : List Value} {ss : List Scalar}
    (h : scalarItems? items = some ss) : items = ss.map .scalar := by
  induction items generalizing ss with
  | nil =>
    cases h
    rfl
  | cons v vs ih =>
    cases v with
    | scalar s =>
      obtain ⟨rest, hrest, rfl⟩ := Option.map_eq_some_iff.1 h
      rw [ih hrest, List.map_cons]
    | _ => cases h

theorem Operand.ofScalar?_eq_some {s : Scalar} {o : Operand} (h : ofScalar? s = some o) :
    o.scalar = s := by
  unfold ofScalar? at h
  split at h
  · cases h
    rfl
  · cases h

theorem Operand.ofScalars?_eq_some {ss : List Scalar} {os : List Operand}
    (h : ofScalars? ss = some os) : os.map Operand.scalar = ss := by
  induction ss generalizing os with
  | nil =>
    cases h
    rfl
  | cons s ss ih =>
    rw [ofScalars?] at h
    split at h
    · next o rest ho hrest =>
      cases h
      rw [List.map_cons, ofScalar?_eq_some ho, ih hrest]
    · cases h

theorem Condition.operandOf_eq_ok {o : Operand} (h : operandOf v = .ok o) :
    v = .scalar o.scalar := by
  cases v with
  | scalar s =>
    rw [operandOf] at h
    split at h
    · next o' ho =>
      cases h
      rw [Operand.ofScalar?_eq_some ho]
    · cases h
  | _ => cases h

theorem Condition.itemsOf_eq_ok {os : List Operand} (h : itemsOf v = .ok os) :
    v = .list (os.map fun o => .scalar o.scalar) := by
  cases v with
  | list items =>
    rw [itemsOf] at h
    split at h
    · cases h
    · next ss hss =>
      split at h
      · next os' hos =>
        cases h
        rw [scalarItems?_eq_some hss, ← Operand.ofScalars?_eq_some hos, List.map_map]
        rfl
      · cases h
  | _ => cases h

theorem map_eq_ok {ε α β : Type} {f : α → β} {x : Except ε α} {b : β} (h : x.map f = .ok b) :
    ∃ a, x = .ok a ∧ f a = b := by
  cases x with
  | error e => cases h
  | ok a => exact ⟨a, rfl, Except.ok.inj h⟩

/-- A condition keeps the operator and the operand that it is made of. -/
theorem Condition.make_eq_ok (h : make op v = .ok c) : c.operator = op ∧ c.value = v := by
  cases op with
  | comparison op =>
    obtain ⟨o, ho, rfl⟩ := map_eq_ok h
    exact ⟨rfl, (operandOf_eq_ok ho).symm⟩
  | membership negated =>
    obtain ⟨os, hos, rfl⟩ := map_eq_ok h
    exact ⟨rfl, (itemsOf_eq_ok hos).symm⟩
  | textual test =>
    obtain ⟨o, ho, rfl⟩ := map_eq_ok h
    exact ⟨rfl, (operandOf_eq_ok ho).symm⟩
  | nullness negated =>
    cases v with
    | null =>
      cases h
      exact ⟨rfl, rfl⟩
    | _ => cases h

theorem Condition.takes (c : Condition) : c.operator.Takes c.value := by
  cases c with
  | comparison op o => exact ⟨o.scalar, rfl, o.finite⟩
  | membership negated items =>
    refine ⟨items.map Operand.scalar, ?_, ?_⟩
    · rw [List.map_map]
      rfl
    · intro s hs
      obtain ⟨o, -, rfl⟩ := List.mem_map.1 hs
      exact o.finite
  | textual test o => exact ⟨o.scalar, rfl, o.finite⟩
  | nullness negated => rfl

/-- An operand that an operator takes is the operand of a condition. -/
theorem Operator.Takes.exists_condition (h : op.Takes v) :
    ∃ c : Condition, c.operator = op ∧ c.value = v := by
  cases op with
  | comparison op =>
    obtain ⟨s, rfl, hs⟩ := h
    exact ⟨.comparison op ⟨s, hs⟩, rfl, rfl⟩
  | membership negated =>
    obtain ⟨ss, rfl, hss⟩ := h
    refine ⟨.membership negated (ss.pmap Operand.mk hss), rfl, ?_⟩
    rw [Condition.value, List.map_pmap, List.pmap_eq_map]
  | textual test =>
    obtain ⟨s, rfl, hs⟩ := h
    exact ⟨.textual test ⟨s, hs⟩, rfl, rfl⟩
  | nullness negated =>
    cases h
    exact ⟨.nullness negated, rfl, rfl⟩

end Make

namespace Draft

inductive Valid : Draft → Prop where
  | matchAll : Valid .matchAll
  | leaf {field : String} {op : Operator} {v : Value} (named : ∀ s ∈ pathSegments field, s ≠ "")
    (takes : op.Takes v) : Valid (.leaf field op v)
  | compound (c : Conjunction) {children : List Draft} (h : ∀ d ∈ children, Valid d) :
    Valid (.compound c children)

end Draft

namespace Predicate

variable {field : String} {op : Operator} {v : Value}

theorem draft_of_make {p : Predicate} (h : make field op v = .ok p) :
    p.draft = .leaf field op v := by
  rw [make] at h
  split at h
  · cases h
  · next path hpath =>
    split at h
    · next c hc =>
      cases h
      obtain ⟨rfl, rfl⟩ := Condition.make_eq_ok hc
      unfold FieldPath.ofString? at hpath
      split at hpath
      · cases hpath
        rfl
      · cases hpath
    · cases h

/-- A leaf can be made of a path of names and an operand that the operator takes, and of nothing
else. -/
theorem make_ok_iff :
    (∃ p, make field op v = .ok p) ↔ (Draft.leaf field op v).Valid := by
  constructor
  · rintro ⟨p, hp⟩
    rw [make] at hp
    split at hp
    · cases hp
    · next path hpath =>
      split at hp
      · next c hc =>
        obtain ⟨rfl, rfl⟩ := Condition.make_eq_ok hc
        unfold FieldPath.ofString? at hpath
        split at hpath
        · next hnamed => exact .leaf hnamed c.takes
        · cases hpath
      · cases hp
  · intro h
    cases h with
    | leaf hnamed htakes =>
      obtain ⟨c, rfl, rfl⟩ := htakes.exists_condition
      exact ⟨_, make_leaf ⟨⟨field, hnamed⟩, c⟩⟩

theorem valid_draft (p : Predicate) : p.draft.Valid := by
  cases p with
  | matchAll => exact .matchAll
  | leaf l => exact .leaf l.field.named l.condition.takes
  | compound c children =>
    rw [draft, drafts_eq_map]
    refine .compound c fun d hd => ?_
    obtain ⟨p, hp, rfl⟩ := List.mem_map.1 hd
    exact valid_draft p

mutual

/-- A predicate is known by its draft. -/
theorem eq_of_draft : ∀ p q : Predicate, p.draft = q.draft → p = q
  | .matchAll, .matchAll, _ => rfl
  | .leaf a, .leaf b, h => by
    obtain ⟨⟨ta, ha⟩, ca⟩ := a
    obtain ⟨⟨tb, hb⟩, cb⟩ := b
    injection h with htext hop hvalue
    cases htext
    have hmake := Condition.make_value ca
    rw [hop, hvalue, Condition.make_value cb] at hmake
    cases hmake
    rfl
  | .compound c ps, .compound d qs, h => by
    injection h with hc hchildren
    rw [hc, eq_of_drafts ps qs hchildren]
  | .matchAll, .leaf _, h => nomatch h
  | .matchAll, .compound _ _, h => nomatch h
  | .leaf _, .matchAll, h => nomatch h
  | .leaf _, .compound _ _, h => nomatch h
  | .compound _ _, .matchAll, h => nomatch h
  | .compound _ _, .leaf _, h => nomatch h

theorem eq_of_drafts : ∀ ps qs : List Predicate, drafts ps = drafts qs → ps = qs
  | [], [], _ => rfl
  | p :: ps, q :: qs, h => by
    injection h with hhead htail
    rw [eq_of_draft p q hhead, eq_of_drafts ps qs htail]
  | [], _ :: _, h => nomatch h
  | _ :: _, [], h => nomatch h

end

end Predicate

namespace Draft

theorem exists_drafts {ds : List Draft} (h : ∀ d ∈ ds, ∃ p : Predicate, p.draft = d) :
    ∃ ps : List Predicate, drafts ps = ds := by
  induction ds with
  | nil => exact ⟨[], rfl⟩
  | cons d ds ih =>
    obtain ⟨p, rfl⟩ := h d (List.mem_cons_self ..)
    obtain ⟨ps, rfl⟩ := ih fun d hd => h d (List.mem_cons_of_mem _ hd)
    exact ⟨p :: ps, rfl⟩

/-- A valid draft is the draft of a predicate. -/
theorem Valid.exists_predicate {d : Draft} (h : d.Valid) : ∃ p : Predicate, p.draft = d := by
  induction h with
  | matchAll => exact ⟨.matchAll, rfl⟩
  | leaf hnamed htakes =>
    obtain ⟨p, hp⟩ := Predicate.make_ok_iff.2 (.leaf hnamed htakes)
    exact ⟨p, Predicate.draft_of_make hp⟩
  | @compound c children _ ih =>
    obtain ⟨ps, rfl⟩ := exists_drafts ih
    exact ⟨.compound c ps, rfl⟩

/-- What can be had: leaves that the constructor lets pass, which every builder calls; whatever the
reader of a document, of a text in JSON, strict or not, or of an expression answers; and compounds
of all these. -/
inductive Obtained : Draft → Prop where
  | matchAll : Obtained .matchAll
  | made {field : String} {op : Operator} {v : Value} {p : Predicate}
    (h : Predicate.make field op v = .ok p) : Obtained (.leaf field op v)
  | compound (c : Conjunction) {children : List Draft} (h : ∀ d ∈ children, Obtained d) :
    Obtained (.compound c children)
  | document {j : Json} {p : Predicate} (h : Predicate.ofJson j = .ok p) : Obtained p.draft
  | json {s : String} {p : Predicate} (h : Predicate.readJson s = .ok p) : Obtained p.draft
  | leadingJson {s : String} {p : Predicate} (h : Predicate.readLeadingJson s = .ok p) :
    Obtained p.draft
  | expression {s : String} {p : Predicate} (h : Predicate.parse s = .ok p) : Obtained p.draft

theorem obtained_iff_valid {d : Draft} : d.Obtained ↔ d.Valid := by
  constructor
  · intro h
    induction h with
    | matchAll => exact .matchAll
    | made h => exact Predicate.make_ok_iff.1 ⟨_, h⟩
    | compound c _ ih => exact .compound c ih
    | document _ => exact Predicate.valid_draft _
    | json _ => exact Predicate.valid_draft _
    | leadingJson _ => exact Predicate.valid_draft _
    | expression _ => exact Predicate.valid_draft _
  · intro h
    induction h with
    | matchAll => exact .matchAll
    | leaf hnamed htakes =>
      obtain ⟨p, hp⟩ := Predicate.make_ok_iff.2 (.leaf hnamed htakes)
      exact .made hp
    | compound c _ ih => exact .compound c ih

end Draft

/-! ## Matching -/

/-- As `Condition.holds`, with an operator and an operand of any shape. -/
def Found.judge? (op : Operator) (v : Value) : Found → Option Bool
  | .null => Value.judge? op .null v
  | .scalar s => Value.judge? op (.scalar s) v
  | .composite => some (op == .nullness true)

namespace Draft

mutual

/-- Whether an entity satisfies a draft, children being asked one after the other as long as the
answer is open. -/
def holds? (e : Entity) : Draft → Option Bool
  | .matchAll => some true
  | .leaf field op v => (e.findings (pathSegments field)).anyM (Found.judge? op v)
  | .compound _ [] => some true
  | .compound .and (d :: ds) => do
    if ← holds? e d then holdsAll? e ds else return false
  | .compound .or (d :: ds) => do
    if ← holds? e d then return true else holdsAny? e ds

def holdsAll? (e : Entity) : List Draft → Option Bool
  | [] => some true
  | d :: ds => do
    if ← holds? e d then holdsAll? e ds else return false

def holdsAny? (e : Entity) : List Draft → Option Bool
  | [] => some false
  | d :: ds => do
    if ← holds? e d then return true else holdsAny? e ds

end

end Draft

theorem Condition.judge?_found (c : Condition) (f : Found) :
    f.judge? c.operator c.value = some (c.holds f) := by
  cases f with
  | null => exact Value.judge?_null _ _
  | scalar s => exact c.judge?_scalar s
  | composite => rfl

namespace Predicate

variable (e : Entity)

mutual

/-- The draft of a predicate is always decided, and as the predicate is. -/
theorem holds?_draft : ∀ p : Predicate, p.draft.holds? e = some (p.holds e)
  | .matchAll => rfl
  | .leaf l => by
    rw [draft, Draft.holds?, holds, Leaf.holds]
    have hjudge : Found.judge? l.condition.operator l.condition.value =
        fun f => pure (l.condition.holds f) := funext l.condition.judge?_found
    rw [hjudge]
    exact List.anyM_pure
  | .compound _ [] => rfl
  | .compound .and (p :: ps) => by
    rw [draft, drafts, Draft.holds?, holds?_draft p, holdsAll?_drafts ps, holds]
    cases p.holds e <;> rfl
  | .compound .or (p :: ps) => by
    rw [draft, drafts, Draft.holds?, holds?_draft p, holdsAny?_drafts ps, holds]
    cases p.holds e <;> rfl

theorem holdsAll?_drafts : ∀ ps : List Predicate,
    Draft.holdsAll? e (drafts ps) = some (holdsAll e ps)
  | [] => rfl
  | p :: ps => by
    rw [drafts, Draft.holdsAll?, holds?_draft p, holdsAll?_drafts ps, holdsAll]
    cases p.holds e <;> rfl

theorem holdsAny?_drafts : ∀ ps : List Predicate,
    Draft.holdsAny? e (drafts ps) = some (holdsAny e ps)
  | [] => rfl
  | p :: ps => by
    rw [drafts, Draft.holdsAny?, holds?_draft p, holdsAny?_drafts ps, holdsAny]
    cases p.holds e <;> rfl

end

end Predicate

end Sieve
