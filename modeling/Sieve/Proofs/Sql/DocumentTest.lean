import Mathlib
import Sieve.Matching
import Sieve.Proofs.Predicate.Operands
import Sieve.Proofs.Sql.Accessor

/-!
# Sieve.Proofs.Sql.DocumentTest

The test of the document at the end of a path against the matcher's verdict on what stands there.
The end of a path is plain when it is a scalar or null; then a null check, an order, and equality or
membership among numbers come out true exactly when the matcher says yes:
`documentTest_agrees`.
-/

namespace Sieve

namespace Json

/-- No container, and no integer that a binary64 number may round. -/
def IsPlain : Json → Prop
  | .array _ => False
  | .object _ => False
  | .integer n => FitsDouble n.val
  | _ => True

theorem isComposite_of_isPlain {j : Json} (h : j.IsPlain) : j.isComposite = false := by
  cases j <;> first | rfl | cases h

end Json

namespace Condition

/-- A null check, an order, or equality and membership among numbers alone. -/
def IsOrderly : Condition → Prop
  | .comparison op o => op.isOrdering = true ∨ o.scalar.isNumeric = true
  | .membership _ items => ∀ o ∈ items, o.scalar.isNumeric = true
  | .textual _ _ => False
  | .nullness _ => True

end Condition

namespace Sql

/-- A database casts a scalar to the number that the matcher takes it for, if to any. -/
def CastsExactly (engine : Engine) (s : Scalar) : Prop :=
  s.IsExact ∧ engine.number? s = s.rational?

/-- What the matcher finds at the end of a path, told what stands there. -/
def foundAt (inner : Option Json) : Found := .ofScalar? (inner.bind Json.scalar?)

/-- A plain end of a path holds nothing, a number, or another scalar that is compared by its
text. -/
inductive PlainEnd (engine : Engine) (inner : Option Json) : Prop where
  | nothing (number : inner.bind Json.number? = none)
    (text : inner.bind (Datum.textOfJson engine) = none)
    (kind : ∀ j, inner = some j → j.kindName = "null") (found : foundAt inner = .null)
  | number {j : Json} {s : Scalar} {q : ℚ} {t : String} (shown : inner = some j)
    (number : j.number? = some q) (text : Datum.textOfJson engine j = some t)
    (kind : j.kindName = "number") (found : foundAt inner = .scalar s)
    (rational : s.rational? = some q) (exact : s.IsExact)
  | other {j : Json} {s : Scalar} (shown : inner = some j) (number : j.number? = none)
    (text : Datum.textOfJson engine j = some s.asText) (kind : j.kindName ≠ "number")
    (kind' : j.kindName ≠ "null") (found : foundAt inner = .scalar s) (value : s.number? = none)

theorem plainEnd (engine : Engine) {inner : Option Json}
    (h : ∀ j, inner = some j → j.IsPlain) : PlainEnd engine inner := by
  rcases inner with _ | j
  · exact .nothing rfl rfl (fun _ h => by cases h) rfl
  · have hj := h j rfl
    cases j with
    | null => exact .nothing rfl rfl (fun _ h => by cases h; rfl) rfl
    | bool b => exact .other rfl rfl rfl (by simp [Json.kindName]) (by simp [Json.kindName]) rfl rfl
    | text s => exact .other rfl rfl rfl (by simp [Json.kindName]) (by simp [Json.kindName]) rfl rfl
    | decimal x =>
      refine .number (s := .float (.finite x)) rfl rfl rfl rfl rfl rfl ?_
      intro n hn
      cases hn
    | integer n =>
      have hsmall : FitsDouble n.val := hj
      unfold FitsDouble at hsmall
      have hlt : n.val < 2 ^ 63 := by omega
      have hfit : n.toInt64? = some (Int64.ofInt n.val) := if_pos hlt
      have hval : (Int64.ofInt n.val).toInt = n.val :=
        Int64.toInt_ofInt_of_le (by omega) (by omega)
      refine .number (s := .int (Int64.ofInt n.val)) rfl rfl rfl rfl ?_ ?_ ?_
      · simp [foundAt, Json.scalar?, Value.ofJson?, hfit, Found.ofScalar?]
      · simp [Scalar.rational?, hval]
      · intro m hm
        cases hm
        rw [hval]
        exact hj
    | array items => cases hj
    | object members => cases hj

section Verdicts

variable {engine : Engine} {actual : Scalar} {p : ℚ} {o : Operand}

/-- The exact number of a numeric operand. -/
theorem rational?_operand (h : o.scalar.isNumeric = true) : ∃ q, o.scalar.rational? = some q := by
  rcases Scalar.rational?_cases o.finite with hq | ⟨hnot, -⟩
  · exact hq
  · rw [h] at hnot
    cases hnot

theorem holdsAt_number {op : Comparison} {q : ℚ} (ha : actual.IsExact)
    (hp : actual.rational? = some p) (ho : o.scalar.IsExact) (hq : o.scalar.rational? = some q) :
    (Condition.comparison op o).holdsAt actual = Datum.holdsInOrder op (compare p q) := by
  simp only [Condition.holdsAt, Datum.holdsInOrder]
  rw [Scalar.equal_rational ha ho hp hq, Scalar.compare?_rational ha ho hp hq]

theorem holdsInOrder_eq (p q : ℚ) : Datum.holdsInOrder .eq (compare p q) = decide (p = q) := by
  unfold Datum.holdsInOrder Comparison.holds
  rw [Bool.eq_iff_iff, beq_iff_eq, decide_eq_true_iff, compare_eq_iff_eq]

theorem equal_number {q : ℚ} (ha : actual.IsExact) (hp : actual.rational? = some p)
    (ho : o.scalar.IsExact) (hq : o.scalar.rational? = some q) :
    o.scalar.equal actual = decide (p = q) := by
  rw [Scalar.equal_rational ho ha hq hp, Bool.eq_iff_iff, beq_iff_eq, decide_eq_true_iff,
    compare_eq_iff_eq]
  exact eq_comm

theorem number?_none_of {s : Scalar} (h : s.isNumeric = false) : s.number? = none := by
  cases s <;> first | rfl | cases h

theorem number?_some_of {s : Scalar} (h : s.isNumeric = true) : ∃ x, s.number? = some x := by
  cases s <;> first | exact ⟨_, rfl⟩ | cases h

/-- An order looks at nothing but how its operands are ordered. -/
theorem holds_of_isOrdering {op : Comparison} (h : op.isOrdering = true) (a b : Bool)
    (order : Option Ordering) : op.holds a order = op.holds b order := by
  cases op <;> first | rfl | cases h

theorem holds_none {op : Comparison} (h : op.isOrdering = true) (equal : Bool) :
    op.holds equal none = false := by
  cases op <;> first | rfl | cases h

end Verdicts

section Params

variable {env : Env} {index : Nat} {s : Scalar} {q : ℚ}

theorem param_number (h : env.argument index = some (.ofScalar s))
    (hq : env.engine.number? s = some q) :
    env.param ⟨index, some .numeric⟩ = .ok (some (.numeric q)) := by
  simp only [Env.param, h]
  unfold Engine.number? at hq
  generalize Argument.ofScalar s = a at hq ⊢
  split at hq
  · cases hq
    rfl
  · cases hq
    rfl
  · cases hq

theorem eval_numberParam (h : env.argument index = some (.ofScalar s))
    (hq : env.engine.number? s = some q) :
    eval env (numberParam index) = .ok (some (.numeric q)) := by
  rw [numberParam, eval, param_number h hq]

theorem eval_textParam {t : String} (h : env.argument index = some (.text t)) :
    eval env (textParam index) = .ok (some (.text t)) := by
  simp only [textParam, eval, Env.param, h]
  rfl

end Params

/-- A condition comes out true exactly when a verdict is yes. -/
def Agrees (env : Env) (e : Expr) (verdict : Bool) : Prop :=
  ∃ t, Decides env e t ∧ (t = some true ↔ verdict = true)

section Tests

variable {env : Env} {root : Expr} {content : Option Json} {path : List String} {first : Nat}

theorem decides_present (h : Shows env root content) :
    Decides env (.isNull true (textAt root path))
      (some ((content.bind (·.follow path)).bind (Datum.textOfJson env.engine)).isSome) := by
  have hnull := decides_isNull true (eval_textAt h path)
  generalize ((content.bind (·.follow path)).bind (Datum.textOfJson env.engine)) = text at hnull ⊢
  cases text <;> exact hnull

theorem decides_noNumber (h : Shows env root content) :
    Decides env (.isNull false (numberAt root path))
      (some ((content.bind (·.follow path)).bind Json.number?).isNone) := by
  have hnull := decides_isNull false (eval_numberAt h path)
  generalize ((content.bind (·.follow path)).bind Json.number?) = number at hnull ⊢
  cases number <;> exact hnull

theorem decides_numberCompare (h : Shows env root content) (op : Comparison) {s : Scalar} {q : ℚ}
    (harg : env.argument first = some (.ofScalar s)) (hq : env.engine.number? s = some q) :
    Decides env (.compare op (numberAt root path) (numberParam first))
      (((content.bind (·.follow path)).bind Json.number?).map fun p =>
        Datum.holdsInOrder op (compare p q)) := by
  refine decides_compare (eval_numberAt h path) (eval_numberParam harg hq) ?_
  generalize ((content.bind (·.follow path)).bind Json.number?) = number
  cases number <;> rfl

theorem decides_textOrder (h : Shows env root content) (op : Comparison) {t : String}
    (harg : env.argument first = some (.text t)) :
    Decides env (.compare op (.bytewise (textAt root path)) (textParam first))
      (((content.bind (·.follow path)).bind (Datum.textOfJson env.engine)).map fun s =>
        op.holds (s == t) (some (compare s t))) := by
  have htext : eval env (.bytewise (textAt root path)) = _ := eval_textAt h path
  refine decides_compare htext (eval_textParam harg) ?_
  generalize ((content.bind (·.follow path)).bind (Datum.textOfJson env.engine)) = text
  cases text <;> rfl

/-- The numbers of a list, compared one by one with the number at the end of the path. -/
def memberTruths (engine : Engine) (number : Option ℚ) (items : List Operand) : List Truth :=
  items.map fun o => number.map fun p => engine.number? o.scalar == some p

/-- A database casts every number to some number. -/
theorem number?_operand (engine : Engine) {o : Operand} (h : o.scalar.isNumeric = true) :
    ∃ q, engine.number? o.scalar = some q := by
  obtain ⟨s, hfinite⟩ := o
  unfold Engine.number?
  cases s with
  | float x =>
    cases x with
    | finite x => exact ⟨_, rfl⟩
    | infinite negative => cases hfinite
    | nan => cases hfinite
  | int n => exact ⟨_, rfl⟩
  | uint n =>
    by_cases hlt : n.toNat < 2 ^ 63
    · rw [Argument.ofScalar, if_pos hlt]
      exact ⟨_, rfl⟩
    · have hsize : (n.toNat : Int).natAbs ≤ 2 ^ 64 := n.toNat_lt.le
      obtain ⟨x, hx⟩ := Binary64.ofInt_finite hsize
      rw [Argument.ofScalar, if_neg hlt, hx]
      exact ⟨_, rfl⟩
  | bool b => cases h
  | text s => cases h

theorem param_truths {number : Option ℚ} {items : List Operand}
    (hitems : ∀ o ∈ items, o.scalar.isNumeric = true)
    (hargs : env.Binds first (items.map fun o => documentArgument o.scalar)) :
    List.Forall₂ (fun p t => ∃ y, env.param p = .ok y ∧
        Datum.compareCells env.engine false .eq (number.map .numeric) y = .ok t)
      (paramsFrom first items.length (some .numeric)) (memberTruths env.engine number items) := by
  induction items generalizing first with
  | nil => exact .nil
  | cons o items ih =>
    have hnum := hitems o (List.mem_cons_self ..)
    obtain ⟨q, hq⟩ := number?_operand env.engine hnum
    rw [List.map_cons, Env.binds_cons, documentArgument, if_pos hnum] at hargs
    refine .cons ⟨_, param_number hargs.1 hq, ?_⟩
      (ih (fun o ho => hitems o (List.mem_cons_of_mem _ ho)) hargs.2)
    cases number with
    | none => rfl
    | some p =>
      simp only [Option.map_some, Datum.compareCells, Datum.holds?, holdsInOrder_eq, hq]
      rw [Except.ok.injEq, Option.some.injEq, Bool.eq_iff_iff, decide_eq_true_iff, beq_iff_eq,
        Option.some.injEq]
      exact eq_comm

theorem decides_numberAmong (h : Shows env root content) (negated : Bool) {items : List Operand}
    (hitems : ∀ o ∈ items, o.scalar.isNumeric = true)
    (hargs : env.Binds first (items.map fun o => documentArgument o.scalar)) :
    Decides env
      (.among negated (numberAt root path) (paramsFrom first items.length (some .numeric)))
      (let number := (content.bind (·.follow path)).bind Json.number?
        let truths := memberTruths env.engine number items
        if negated then Truth.not (Truth.any truths) else Truth.any truths) :=
  decides_among negated (eval_numberAt h path) (param_truths hitems hargs)

theorem holds_null (c : Condition) : c.holds .null = (c.operator == .nullness false) := rfl

theorem holds_scalar (c : Condition) (s : Scalar) : c.holds (.scalar s) = c.holdsAt s := rfl

theorem isNullTest_agrees (h : Shows env root content)
    (hplain : ∀ j, content.bind (·.follow path) = some j → j.IsPlain) :
    Agrees env (documentTest root path (.nullness false) first)
      ((Condition.nullness false).holds (foundAt (content.bind (·.follow path)))) := by
  have hdoc := shows_documentAt h path
  refine ⟨_, decides_paren (decides_junction .or (decides_isNull false hdoc)
    (decides_kindIs hdoc .eq "null")), ?_⟩
  have hend := plainEnd env.engine hplain
  generalize content.bind (·.follow path) = inner at hend ⊢
  rw [Truth.join, Truth.or_eq_true]
  cases hend with
  | nothing hn ht hk hf =>
    rw [hf, holds_null]
    refine iff_of_true ?_ rfl
    cases inner with
    | none => exact .inl rfl
    | some j => exact .inr (by simp [hk j rfl, Datum.textsHold_eq])
  | number hs hn ht hk hf hq he =>
    rw [hf, holds_scalar]
    simp [hs, hk, Datum.textsHold_eq, Condition.holdsAt]
  | other hs hn ht hk hk' hf hv =>
    rw [hf, holds_scalar]
    simp [hs, hk', Datum.textsHold_eq, Condition.holdsAt]

theorem isNotNullTest_agrees (h : Shows env root content)
    (hplain : ∀ j, content.bind (·.follow path) = some j → j.IsPlain) :
    Agrees env (documentTest root path (.nullness true) first)
      ((Condition.nullness true).holds (foundAt (content.bind (·.follow path)))) := by
  refine ⟨_, decides_kindIs (shows_documentAt h path) .ne "null", ?_⟩
  have hend := plainEnd env.engine hplain
  generalize content.bind (·.follow path) = inner at hend ⊢
  cases hend with
  | nothing hn ht hk hf =>
    rw [hf, holds_null]
    refine iff_of_false ?_ (by decide)
    cases inner with
    | none => simp
    | some j => simp [hk j rfl, Datum.textsHold_ne]
  | number hs hn ht hk hf hq he =>
    rw [hf, holds_scalar]
    simp [hs, hk, Datum.textsHold_ne, Condition.holdsAt]
  | other hs hn ht hk hk' hf hv =>
    rw [hf, holds_scalar]
    simp [hs, hk', Datum.textsHold_ne, Condition.holdsAt]

section Operand

variable {op : Comparison} {o : Operand}

theorem differsTest_agrees (h : Shows env root content)
    (hnum : o.scalar.isNumeric = true) (hcast : CastsExactly env.engine o.scalar)
    (harg : env.argument first = some (.ofScalar o.scalar))
    (hplain : ∀ j, content.bind (·.follow path) = some j → j.IsPlain) :
    Agrees env (documentComparison root path .ne true first)
      ((Condition.comparison .ne o).holds (foundAt (content.bind (·.follow path)))) := by
  obtain ⟨q, hq⟩ := rational?_operand hnum
  obtain ⟨x, hx⟩ := number?_some_of hnum
  refine ⟨_, decides_paren (decides_junction .and (decides_present h)
    (decides_paren (decides_junction .or (decides_noNumber h)
      (decides_numberCompare h .ne harg (hcast.2.trans hq))))), ?_⟩
  have hend := plainEnd env.engine hplain
  generalize content.bind (·.follow path) = inner at hend ⊢
  rw [Truth.join, Truth.and_eq_true, Truth.join, Truth.or_eq_true]
  cases hend with
  | nothing hn ht hk hf =>
    rw [hf, holds_null, ht]
    simp [Condition.operator]
  | number hs hn ht hk hf hp he =>
    rw [hf, holds_scalar, holdsAt_number he hp hcast.1 hq]
    simp [hs, hn, ht]
  | other hs hn ht hk hk' hf hv =>
    rw [hf, holds_scalar]
    simp [hs, hn, ht, Condition.holdsAt, Comparison.holds, Scalar.equal_apart hx hv]

theorem numberTest_agrees (h : Shows env root content) (hop : op ≠ .ne)
    (hnum : o.scalar.isNumeric = true) (hcast : CastsExactly env.engine o.scalar)
    (harg : env.argument first = some (.ofScalar o.scalar))
    (hplain : ∀ j, content.bind (·.follow path) = some j → j.IsPlain) :
    Agrees env (documentComparison root path op true first)
      ((Condition.comparison op o).holds (foundAt (content.bind (·.follow path)))) := by
  obtain ⟨q, hq⟩ := rational?_operand hnum
  obtain ⟨x, hx⟩ := number?_some_of hnum
  have hshape : documentComparison root path op true first =
      .compare op (numberAt root path) (numberParam first) := by
    cases op <;> first | rfl | exact absurd rfl hop
  rw [hshape]
  refine ⟨_, decides_numberCompare h op harg (hcast.2.trans hq), ?_⟩
  have hend := plainEnd env.engine hplain
  generalize content.bind (·.follow path) = inner at hend ⊢
  cases hend with
  | nothing hn ht hk hf =>
    rw [hf, holds_null, hn]
    simp [Condition.operator]
  | number hs hn ht hk hf hp he =>
    rw [hf, holds_scalar, holdsAt_number he hp hcast.1 hq]
    simp [hs, hn]
  | other hs hn ht hk hk' hf hv =>
    rw [hf, holds_scalar]
    simp only [hs, hn, Option.bind_some, Option.map_none, Condition.holdsAt,
      Scalar.equal_apart hx hv, Scalar.compare?_apart hx hv]
    cases op <;> simp [Comparison.holds] at hop ⊢

theorem textOrderTest_agrees (h : Shows env root content) (hop : op.isOrdering = true)
    (hnum : o.scalar.isNumeric = false)
    (harg : env.argument first = some (.text o.scalar.asText))
    (hplain : ∀ j, content.bind (·.follow path) = some j → j.IsPlain) :
    Agrees env (documentComparison root path op false first)
      ((Condition.comparison op o).holds (foundAt (content.bind (·.follow path)))) := by
  have hnone := number?_none_of hnum
  have hdoc := shows_documentAt h path
  have hshape : documentComparison root path op false first =
      .paren (both (.compare .ne (.kind (documentAt root path)) (.string "number"))
        (.compare op (.bytewise (textAt root path)) (textParam first))) := by
    simp [documentComparison, hop]
  rw [hshape]
  refine ⟨_, decides_paren (decides_junction .and (decides_kindIs hdoc .ne "number")
    (decides_textOrder h op harg)), ?_⟩
  have hend := plainEnd env.engine hplain
  generalize content.bind (·.follow path) = inner at hend ⊢
  rw [Truth.join, Truth.and_eq_true]
  cases hend with
  | nothing hn ht hk hf =>
    rw [hf, holds_null, ht]
    simp [Condition.operator]
  | number hs hn ht hk hf hp he =>
    obtain ⟨x, hx⟩ := number?_some_of (Scalar.isNumeric_of_rational? hp)
    rw [hf, holds_scalar]
    simp [hs, hk, Datum.textsHold_ne, Condition.holdsAt, Scalar.compare?_apart hx hnone,
      holds_none hop]
  | other hs hn ht hk hk' hf hv =>
    rw [hf, holds_scalar]
    simp only [hs, ht, hk, Datum.textsHold_ne, Condition.holdsAt, Scalar.compare?, hv, hnone,
      Option.map_some, Option.bind_some, Option.some.injEq, bne_iff_ne, ne_eq, not_false_eq_true,
      true_and]
    rw [holds_of_isOrdering hop]

end Operand

section Membership

variable {items : List Operand}

theorem any_memberTruths_none {engine : Engine} :
    Truth.any (memberTruths engine none items) ≠ some true := by
  rw [Ne, Truth.any_eq_true, memberTruths, List.mem_map]
  rintro ⟨o, -, ho⟩
  cases ho

theorem any_memberTruths_some (engine : Engine) (p : ℚ) (items : List Operand) :
    Truth.any (memberTruths engine (some p) items) =
      some (items.any fun o => engine.number? o.scalar == some p) :=
  Truth.any_map_some _ items

/-- The matcher's membership among numbers is that of exact numbers. -/
theorem any_equal_number {engine : Engine} {s : Scalar} {p : ℚ} (hs : s.IsExact)
    (hp : s.rational? = some p)
    (hitems : ∀ o ∈ items, o.scalar.isNumeric = true ∧ CastsExactly engine o.scalar) :
    (items.any fun o => o.scalar.equal s) =
      items.any fun o => engine.number? o.scalar == some p := by
  induction items with
  | nil => rfl
  | cons o items ih =>
    obtain ⟨hnum, hexact, hcast⟩ := hitems o (List.mem_cons_self ..)
    obtain ⟨q, hq⟩ := rational?_operand hnum
    have hrest := ih fun o ho => hitems o (List.mem_cons_of_mem _ ho)
    have hhead : o.scalar.equal s = (engine.number? o.scalar == some p) := by
      rw [equal_number hs hp hexact hq, hcast, hq, Bool.eq_iff_iff, decide_eq_true_iff, beq_iff_eq,
        Option.some.injEq]
      exact eq_comm
    rw [List.any_cons, List.any_cons, hhead, hrest]

theorem any_equal_apart {s : Scalar} (hs : s.number? = none)
    (hitems : ∀ o ∈ items, o.scalar.isNumeric = true) :
    (items.any fun o => o.scalar.equal s) = false := by
  rw [List.any_eq_false]
  intro o ho
  obtain ⟨x, hx⟩ := number?_some_of (hitems o ho)
  rw [(Scalar.equal_apart hx hs).2]
  exact Bool.false_ne_true

theorem inTest_agrees (h : Shows env root content)
    (hitems : ∀ o ∈ items, o.scalar.isNumeric = true ∧ CastsExactly env.engine o.scalar)
    (hargs : env.Binds first (items.map fun o => documentArgument o.scalar))
    (hplain : ∀ j, content.bind (·.follow path) = some j → j.IsPlain) :
    Agrees env
      (documentAmong root path (paramsFrom first items.length (some .numeric)) [])
      ((Condition.membership false items).holds (foundAt (content.bind (·.follow path)))) := by
  have hnum : ∀ o ∈ items, o.scalar.isNumeric = true := fun o ho => (hitems o ho).1
  have hend := plainEnd env.engine hplain
  cases hcase : items with
  | nil =>
    refine ⟨some false, decides_truth false, ?_⟩
    cases hend with
    | nothing hn ht hk hf =>
      rw [hf, holds_null]
      simp [Condition.operator]
    | number hs hn ht hk hf hp he =>
      rw [hf, holds_scalar]
      simp [Condition.holdsAt]
    | other hs hn ht hk hk' hf hv =>
      rw [hf, holds_scalar]
      simp [Condition.holdsAt]
  | cons o more =>
    rw [← hcase]
    have hshape : documentAmong root path (paramsFrom first items.length (some .numeric)) [] =
        .among false (numberAt root path) (paramsFrom first items.length (some .numeric)) := by
      rw [hcase]
      rfl
    rw [hshape]
    refine ⟨_, decides_numberAmong h false hnum hargs, ?_⟩
    generalize content.bind (·.follow path) = inner at hend ⊢
    simp only [Bool.false_eq_true, if_false]
    cases hend with
    | nothing hn ht hk hf =>
      rw [hf, holds_null, hn]
      exact iff_of_false any_memberTruths_none (by simp [Condition.operator])
    | number hs hn ht hk hf hp he =>
      rw [hf, holds_scalar, hs, Option.bind_some, hn, any_memberTruths_some]
      simp only [Condition.holdsAt, any_equal_number he hp hitems, Bool.bne_false,
        Option.some.injEq]
    | other hs hn ht hk hk' hf hv =>
      rw [hf, holds_scalar, hs, Option.bind_some, hn]
      refine iff_of_false any_memberTruths_none ?_
      simp only [Condition.holdsAt, any_equal_apart hv hnum, Bool.bne_false]
      exact Bool.false_ne_true

theorem notInTest_agrees (h : Shows env root content)
    (hitems : ∀ o ∈ items, o.scalar.isNumeric = true ∧ CastsExactly env.engine o.scalar)
    (hargs : env.Binds first (items.map fun o => documentArgument o.scalar))
    (hplain : ∀ j, content.bind (·.follow path) = some j → j.IsPlain) :
    Agrees env
      (documentNotAmong root path (paramsFrom first items.length (some .numeric)) [])
      ((Condition.membership true items).holds (foundAt (content.bind (·.follow path)))) := by
  have hnum : ∀ o ∈ items, o.scalar.isNumeric = true := fun o ho => (hitems o ho).1
  have hend := plainEnd env.engine hplain
  cases hcase : items with
  | nil =>
    refine ⟨_, decides_present h, ?_⟩
    generalize content.bind (·.follow path) = inner at hend ⊢
    cases hend with
    | nothing hn ht hk hf =>
      rw [hf, holds_null, ht]
      simp [Condition.operator]
    | number hs hn ht hk hf hp he =>
      rw [hf, holds_scalar]
      simp [hs, ht, Condition.holdsAt]
    | other hs hn ht hk hk' hf hv =>
      rw [hf, holds_scalar]
      simp [hs, ht, Condition.holdsAt]
  | cons o more =>
    rw [← hcase]
    have hshape : documentNotAmong root path (paramsFrom first items.length (some .numeric)) [] =
        .paren (both (.isNull true (textAt root path))
          (.paren (either (.isNull false (numberAt root path))
            (.among true (numberAt root path)
              (paramsFrom first items.length (some .numeric)))))) := by
      rw [hcase]
      rfl
    rw [hshape]
    refine ⟨_, decides_paren (decides_junction .and (decides_present h)
      (decides_paren (decides_junction .or (decides_noNumber h)
        (decides_numberAmong h true hnum hargs)))), ?_⟩
    generalize content.bind (·.follow path) = inner at hend ⊢
    rw [Truth.join, Truth.and_eq_true, Truth.join, Truth.or_eq_true]
    simp only [if_true, Truth.not_eq_true]
    cases hend with
    | nothing hn ht hk hf =>
      rw [hf, holds_null, ht]
      simp [Condition.operator]
    | number hs hn ht hk hf hp he =>
      rw [hf, holds_scalar]
      simp [hs, hn, ht, any_memberTruths_some, Condition.holdsAt, any_equal_number he hp hitems]
    | other hs hn ht hk hk' hf hv =>
      rw [hf, holds_scalar]
      simp [hs, hn, ht, Condition.holdsAt, any_equal_apart hv hnum]

end Membership

/-- The test of a document at the end of a path agrees with the matcher. -/
theorem documentTest_agrees (h : Shows env root content) {c : Condition} (hc : c.IsOrderly)
    (hcast : ∀ o ∈ c.operands, CastsExactly env.engine o.scalar)
    (hargs : env.Binds first (documentArguments c))
    (hplain : ∀ j, content.bind (·.follow path) = some j → j.IsPlain) :
    Agrees env (documentTest root path c first)
      (c.holds (foundAt (content.bind (·.follow path)))) := by
  cases c with
  | nullness negated =>
    cases negated with
    | true => exact isNotNullTest_agrees h hplain
    | false => exact isNullTest_agrees h hplain
  | textual test o => cases hc
  | comparison op o =>
    have ho := hcast o (List.mem_singleton_self o)
    have harg := (Env.binds_cons.1 hargs).1
    have hshape : documentTest root path (.comparison op o) first =
        documentComparison root path op o.scalar.isNumeric first := rfl
    rw [hshape]
    cases hnum : o.scalar.isNumeric with
    | true =>
      rw [documentArgument, if_pos hnum] at harg
      by_cases hop : op = .ne
      · subst hop
        exact differsTest_agrees h hnum ho harg hplain
      · exact numberTest_agrees h hop hnum ho harg hplain
    | false =>
      rw [documentArgument, if_neg (by rw [hnum]; exact Bool.false_ne_true)] at harg
      have hop : op.isOrdering = true := by
        rcases hc with hop | hnum'
        · exact hop
        · rw [hnum] at hnum'
          cases hnum'
      exact textOrderTest_agrees h hop hnum harg hplain
  | membership negated items =>
    have hnumeric : numericItems items = items := List.filter_eq_self.2 hc
    have hother : otherItems items = [] :=
      List.filter_eq_nil_iff.2 fun o ho => by simp [hc o ho]
    have hitems : ∀ o ∈ items, o.scalar.isNumeric = true ∧ CastsExactly env.engine o.scalar :=
      fun o ho => ⟨hc o ho, hcast o ho⟩
    rw [documentArguments, hnumeric, hother, List.append_nil] at hargs
    unfold documentTest
    simp only [hnumeric, hother, List.length_nil]
    cases negated with
    | true => exact notInTest_agrees h hitems hargs hplain
    | false => exact inTest_agrees h hitems hargs hplain

end Tests

end Sql
end Sieve
