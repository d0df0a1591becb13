import Mathlib
import Sieve.Proofs.Sql.DocumentEquality
import Sieve.Proofs.Value.Integers

/-!
# Sieve.Proofs.Sql.ColumnLeaf

Leaves on plain columns. As long as the operands are of the kind of the column, the compiled
condition comes out true on a row exactly when the matcher says that the content of the column
satisfies it: `compiled_columnLeaf_agrees`. Texts are only compared for equality here, since their
order is up to the database, and integers have to keep within 53 bits.
-/

namespace Sieve

/-- The content of a plain column as an entity. -/
def Entity.ofCell : Option Scalar → Entity
  | none => .null
  | some s => .leaf s

namespace Sql

/-- Columns whose values are compared with values of their own kind. -/
inductive ColumnKind where
  | text
  | bool
  | integer
  deriving DecidableEq

namespace ColumnKind

/-- A scalar and the value of the database that stands for it. An integer is the same value whether
it is signed or not. -/
inductive Shows : ColumnKind → Scalar → Datum → Prop where
  | text (s : String) : Shows .text (.text s) (.text s)
  | bool (b : Bool) : Shows .bool (.bool b) (.bool b)
  | integer {s : Scalar} {n : Int} (value : s.integer? = some n) (fits : FitsDouble n) :
      Shows .integer s (.integer n)

end ColumnKind

end Sql

/-- A null check, a membership, an equality, or an order of anything but texts. -/
def Condition.IsPlain (kind : Sql.ColumnKind) : Condition → Prop
  | .comparison op _ => op.isOrdering = true → kind ≠ .text
  | .membership _ _ => True
  | .textual _ _ => False
  | .nullness _ => True

namespace Sql

section Values

variable {kind : ColumnKind} {a b : Scalar} {x y : Datum}

/-- An integer that fits into 64 bits with a sign is bound as it is. -/
theorem datum?_integer {n : Int} (hs : a.integer? = some n) (hfits : FitsSigned n) :
    (Argument.ofScalar a).datum? = some (.integer n) := by
  cases a with
  | int k =>
    cases hs
    rfl
  | uint k =>
    cases hs
    have hlt : k.toNat < 2 ^ 63 := by
      have := hfits.2
      omega
    rw [Argument.ofScalar, if_pos hlt, Argument.datum?, Int64.toInt_ofNat_of_lt hlt]
  | _ => cases hs

theorem datum?_ofScalar (h : kind.Shows a x) : (Argument.ofScalar a).datum? = some x := by
  cases h with
  | text s => rfl
  | bool b => rfl
  | integer value fits => exact datum?_integer value fits.fitsSigned

theorem isExact_of_integer? {n : Int} (h : a.integer? = some n) (hn : FitsDouble n) :
    a.IsExact := by
  intro m hm
  rw [h] at hm
  exact Option.some.inj hm ▸ hn

theorem compare_intCast (m n : Int) : compare (m : ℚ) (n : ℚ) = compare m n := by
  rw [← cmp_eq_compare, ← cmp_eq_compare]
  exact Int.cast_strictMono.cmp_map_eq m n

/-- Integers within 53 bits compare as they are. -/
theorem compare?_of_integer? {m n : Int} (hm : a.integer? = some m) (hfm : FitsDouble m)
    (hn : b.integer? = some n) (hfn : FitsDouble n) : a.compare? b = some (compare m n) := by
  rw [Scalar.compare?_rational (isExact_of_integer? hm hfm) (isExact_of_integer? hn hfn)
    (rational?_of_integer? hm) (rational?_of_integer? hn), compare_intCast]

theorem equal_of_integer? {m n : Int} (hm : a.integer? = some m) (hfm : FitsDouble m)
    (hn : b.integer? = some n) (hfn : FitsDouble n) : a.equal b = (compare m n == .eq) := by
  rw [Scalar.equal_rational (isExact_of_integer? hm hfm) (isExact_of_integer? hn hfn)
    (rational?_of_integer? hm) (rational?_of_integer? hn), compare_intCast]

/-- Truth values are ordered as their texts are. -/
theorem compare_truth (s t : Bool) : compare (Scalar.truth s) (Scalar.truth t) = compare s t := by
  cases s <;> cases t <;> decide

theorem compare_eq_beq (s t : Bool) : (compare s t == .eq) = (s == t) := by
  cases s <;> cases t <;> rfl

/-- Values of one kind stand in a comparison in the database as they do for the matcher. -/
theorem holds?_eq (engine : Engine) (ha : kind.Shows a x) (hb : kind.Shows b y) {op : Comparison}
    (hop : op.isOrdering = true → kind ≠ .text) :
    Datum.holds? engine false op x y = some (op.holds (a.equal b) (a.compare? b)) := by
  cases ha with
  | text s =>
    cases hb with
    | text t =>
      cases op with
      | eq => rfl
      | ne => rfl
      | _ => exact absurd rfl (hop rfl)
  | bool s =>
    cases hb with
    | bool t =>
      have hequal : (Scalar.bool s).equal (.bool t) = (s == t) := rfl
      have horder : (Scalar.bool s).compare? (.bool t) =
          some (compare (Scalar.truth s) (Scalar.truth t)) := rfl
      rw [hequal, horder, compare_truth, ← compare_eq_beq]
      rfl
  | integer hm hfm =>
    cases hb with
    | integer hn hfn =>
      rw [equal_of_integer? hm hfm hn hfn, compare?_of_integer? hm hfm hn hfn]
      rfl

theorem equal_comm_of_shows (ha : kind.Shows a x) (hb : kind.Shows b y) :
    a.equal b = b.equal a := by
  cases ha with
  | text s => exact (Condition.equal_other_comm rfl).symm
  | bool s => exact (Condition.equal_other_comm rfl).symm
  | integer hm hfm =>
    cases hb with
    | integer hn hfn =>
      rw [equal_of_integer? hm hfm hn hfn, equal_of_integer? hn hfn hm hfm, Bool.eq_iff_iff,
        beq_iff_eq, beq_iff_eq, compare_eq_iff_eq, compare_eq_iff_eq]
      exact eq_comm

end Values

section Tests

variable {env : Env} {kind : ColumnKind} {content : Option Scalar} {column : String} {first : Nat}
  {o : Operand} {items : List Operand} {y : Datum}

/-- A column holds NULL, or the value that stands for a scalar. -/
def HoldsIn (env : Env) (column : String) (kind : ColumnKind) (content : Option Scalar) : Prop :=
  Option.Rel kind.Shows content (env.row column)

theorem param_shows (ho : kind.Shows o.scalar y)
    (harg : env.argument first = some (.ofScalar o.scalar)) :
    env.param ⟨first, none⟩ = .ok (some y) := by
  simp only [Env.param, harg, datum?_ofScalar ho]

/-- A comparison with NULL is unknown, any other comes out as for the matcher. -/
theorem compareCells_eq (h : HoldsIn env column kind content) (ho : kind.Shows o.scalar y)
    {op : Comparison} (hop : op.isOrdering = true → kind ≠ .text) :
    Datum.compareCells env.engine false op (env.row column) (some y) =
      .ok (content.map fun s => op.holds (s.equal o.scalar) (s.compare? o.scalar)) := by
  unfold HoldsIn at h
  generalize env.row column = cell at h
  cases h with
  | none => rfl
  | some hs => simp only [Datum.compareCells, holds?_eq env.engine hs ho hop, Option.map_some]

theorem decides_columnCompare (h : HoldsIn env column kind content) (ho : kind.Shows o.scalar y)
    (harg : env.argument first = some (.ofScalar o.scalar)) {op : Comparison}
    (hop : op.isOrdering = true → kind ≠ .text) :
    Decides env (columnTest column (.comparison op o) first)
      (content.map fun s => op.holds (s.equal o.scalar) (s.compare? o.scalar)) := by
  have hcolumn : eval env (.column column) = .ok (env.row column) := by rw [eval]
  have hparam : eval env (textParam first) = .ok (some y) := by
    rw [textParam, eval, param_shows ho harg]
  exact decides_compare hcolumn hparam (compareCells_eq h ho hop)

/-- Equality may be asked the other way round, as the matcher does for lists. -/
theorem compareCells_equal (h : HoldsIn env column kind content) (ho : kind.Shows o.scalar y) :
    Datum.compareCells env.engine false .eq (env.row column) (some y) =
      .ok (content.map fun s => o.scalar.equal s) := by
  have hne : Comparison.isOrdering .eq = true → kind ≠ .text := fun hop => by cases hop
  rw [compareCells_eq h ho hne]
  unfold HoldsIn at h
  generalize env.row column = cell at h
  cases h with
  | none => rfl
  | some hs => simp only [Option.map_some, Comparison.holds, equal_comm_of_shows hs ho]

theorem column_truths (h : HoldsIn env column kind content)
    (hitems : ∀ o ∈ items, ∃ y, kind.Shows o.scalar y)
    (hargs : env.Binds first (items.map fun o => .ofScalar o.scalar)) :
    List.Forall₂ (fun p t => ∃ y, env.param p = .ok y ∧
        Datum.compareCells env.engine false .eq (env.row column) y = .ok t)
      (paramsFrom first items.length none)
      (items.map fun o => content.map fun s => o.scalar.equal s) := by
  induction items generalizing first with
  | nil => exact .nil
  | cons o items ih =>
    obtain ⟨⟨y, ho⟩, hrest⟩ := List.forall_mem_cons.1 hitems
    rw [List.map_cons, Env.binds_cons] at hargs
    exact .cons ⟨_, param_shows ho hargs.1, compareCells_equal h ho⟩ (ih hrest hargs.2)

theorem isNone_of_holdsIn (h : HoldsIn env column kind content) :
    (env.row column).isNone = content.isNone := by
  unfold HoldsIn at h
  generalize env.row column = cell at h
  cases h <;> rfl

theorem decides_columnNull (h : HoldsIn env column kind content) (negated : Bool) :
    Decides env (.isNull negated (.column column)) (some (content.isNone != negated)) := by
  have hcolumn : eval env (.column column) = .ok (env.row column) := by rw [eval]
  rw [← isNone_of_holdsIn h]
  exact decides_isNull negated hcolumn

theorem nullTest_agrees (h : HoldsIn env column kind content) (negated : Bool) :
    Agrees env (columnTest column (.nullness negated) first)
      ((Condition.nullness negated).holds (.ofScalar? content)) := by
  refine ⟨_, decides_columnNull h negated, ?_⟩
  cases content with
  | none => cases negated <;> decide
  | some s => cases negated <;> simp [Found.ofScalar?, holds_scalar, Condition.holdsAt]

theorem compareTest_agrees (h : HoldsIn env column kind content) (ho : kind.Shows o.scalar y)
    (harg : env.argument first = some (.ofScalar o.scalar)) {op : Comparison}
    (hop : op.isOrdering = true → kind ≠ .text) :
    Agrees env (columnTest column (.comparison op o) first)
      ((Condition.comparison op o).holds (.ofScalar? content)) := by
  refine ⟨_, decides_columnCompare h ho harg hop, ?_⟩
  cases content with
  | none => simp [Found.ofScalar?, holds_null, Condition.operator]
  | some s => simp [Found.ofScalar?, holds_scalar, Condition.holdsAt]

theorem decides_columnAmong (h : HoldsIn env column kind content)
    (hitems : ∀ o ∈ items, ∃ y, kind.Shows o.scalar y)
    (hargs : env.Binds first (items.map fun o => .ofScalar o.scalar)) (negated : Bool) :
    Decides env (.among negated (.column column) (paramsFrom first items.length none))
      (let truths := items.map fun o => content.map fun s => o.scalar.equal s
        if negated then Truth.not (Truth.any truths) else Truth.any truths) := by
  have hcolumn : eval env (.column column) = .ok (env.row column) := by rw [eval]
  exact decides_among negated hcolumn (column_truths h hitems hargs)

theorem inTest_agrees_column (h : HoldsIn env column kind content)
    (hitems : ∀ o ∈ items, ∃ y, kind.Shows o.scalar y)
    (hargs : env.Binds first (items.map fun o => .ofScalar o.scalar)) :
    Agrees env (columnTest column (.membership false items) first)
      ((Condition.membership false items).holds (.ofScalar? content)) := by
  have hverdict : (∃ o ∈ items, ∃ s, content = some s ∧ o.scalar.equal s = true) ↔
      (Condition.membership false items).holds (.ofScalar? content) = true := by
    cases content with
    | none => simp [Found.ofScalar?, holds_null, Condition.operator]
    | some s => simp [Found.ofScalar?, holds_scalar, Condition.holdsAt]
  cases items with
  | nil => exact ⟨_, decides_truth false, by simpa using hverdict⟩
  | cons o more =>
    refine ⟨_, decides_columnAmong h hitems hargs false, ?_⟩
    rw [← hverdict]
    exact any_compared

theorem notInTest_agrees_column (h : HoldsIn env column kind content)
    (hitems : ∀ o ∈ items, ∃ y, kind.Shows o.scalar y)
    (hargs : env.Binds first (items.map fun o => .ofScalar o.scalar)) :
    Agrees env (columnTest column (.membership true items) first)
      ((Condition.membership true items).holds (.ofScalar? content)) := by
  cases items with
  | nil =>
    refine ⟨_, decides_columnNull h true, ?_⟩
    cases content with
    | none => decide
    | some s => simp [Found.ofScalar?, holds_scalar, Condition.holdsAt]
  | cons o more =>
    refine ⟨_, decides_columnAmong h hitems hargs true, ?_⟩
    refine none_compared.trans ?_
    cases content with
    | none =>
      refine iff_of_false (fun hall => ?_) (by simp [Found.ofScalar?, holds_null,
        Condition.operator])
      obtain ⟨s, hs, -⟩ := hall o (List.mem_cons_self ..)
      cases hs
    | some s => simp [Found.ofScalar?, holds_scalar, Condition.holdsAt]

/-- The test of a plain column agrees with the matcher. -/
theorem columnTest_agrees {c : Condition} (h : HoldsIn env column kind content)
    (hc : c.IsPlain kind) (hoperands : ∀ o ∈ c.operands, ∃ y, kind.Shows o.scalar y)
    (hargs : env.Binds first (columnArguments c)) :
    Agrees env (columnTest column c first) (c.holds (.ofScalar? content)) := by
  cases c with
  | comparison op o =>
    obtain ⟨y, ho⟩ := hoperands o (List.mem_singleton_self o)
    exact compareTest_agrees h ho (Env.binds_cons.1 hargs).1 hc
  | membership negated items =>
    cases negated with
    | false => exact inTest_agrees_column h hoperands hargs
    | true => exact notInTest_agrees_column h hoperands hargs
  | textual test o => exact hc.elim
  | nullness negated => exact nullTest_agrees h negated

end Tests

theorem targetOf_of_plain {catalog : Catalog} {l : Leaf}
    (hkind : catalog.kind? (catalog.columnFor l.field.root) = none)
    (hsingle : l.field.nested = []) :
    targetOf catalog l = ⟨catalog.columnFor l.field.root, none, []⟩ := by
  simp [targetOf, hkind, hsingle]

/-- The compiled condition of a leaf on a plain column, its operands being of the kind of the
column, comes out true exactly when the content of the column satisfies the leaf. -/
theorem compiled_columnLeaf_agrees {env : Env} {catalog : Catalog} {l : Leaf} {first : Nat}
    {kind : ColumnKind} {content : Option Scalar}
    (hkind : catalog.kind? (catalog.columnFor l.field.root) = none) (hsingle : l.field.nested = [])
    (hrow : HoldsIn env (catalog.columnFor l.field.root) kind content)
    (hargs : env.Binds first (compileFrom catalog (.leaf l) first).arguments)
    (hplain : l.condition.IsPlain kind)
    (hoperands : ∀ o ∈ l.condition.operands, ∃ y, kind.Shows o.scalar y) :
    Agrees env (compileFrom catalog (.leaf l) first).condition
      ((Predicate.leaf l).holds (.map [(l.field.root, .ofCell content)])) := by
  have htarget := targetOf_of_plain hkind hsingle
  have hcolumn : env.Binds first (columnArguments l.condition) := by
    have harguments : leafArguments catalog l = columnArguments l.condition := by
      rw [leafArguments, htarget]
    rw [← harguments]
    simpa only [compileFrom, arguments] using hargs
  have hfound : Entity.findings [] (.ofCell content) = [.ofScalar? content] := by
    cases content with
    | none => exact Entity.findings_null []
    | some s => simp [Entity.findings, Entity.ofCell, Entity.resolve, Entity.itemFindings,
        Found.ofScalar?]
  rw [Predicate.holds, Leaf.holds, FieldPath.segments_eq, hsingle, Entity.findings_entry, hfound,
    List.any_cons, List.any_nil, Bool.or_false]
  simp only [compileFrom, test, leafTest, htarget]
  exact columnTest_agrees hrow hplain hoperands hcolumn

/-- The leaf `Tier NOT IN (8, 9007199254740991)`, its first item unsigned. -/
def tierNotAmong : Leaf where
  field := ⟨"Tier", by decide +kernel⟩
  condition := .membership true [⟨.uint 8, rfl⟩, ⟨.int 9007199254740991, rfl⟩]

/-- The greatest integer that is exact as a binary64 number is told apart from the one before. -/
theorem compiled_columnLeaf_agrees_tier :
    let compiled := compileFrom .empty (.leaf tierNotAmong) 1
    Agrees (rowEnv "tier" (.integer 9007199254740992) compiled.arguments) compiled.condition
      ((Predicate.leaf tierNotAmong).holds
        (.map [("Tier", .ofCell (some (.int 9007199254740992)))])) := by
  intro compiled
  have hroot : tierNotAmong.field.root = "Tier" := by decide +kernel
  have hcolumn : Catalog.empty.columnFor tierNotAmong.field.root = "tier" := by decide +kernel
  have hkind : Catalog.empty.kind? (Catalog.empty.columnFor tierNotAmong.field.root) = none := by
    decide +kernel
  have hsingle : tierNotAmong.field.nested = [] := by decide +kernel
  have hrow : HoldsIn (rowEnv "tier" (.integer 9007199254740992) compiled.arguments)
      (Catalog.empty.columnFor tierNotAmong.field.root) .integer
      (some (.int 9007199254740992)) := by
    rw [hcolumn]
    exact .some (.integer rfl (by decide))
  have hoperands : ∀ o ∈ tierNotAmong.condition.operands,
      ∃ y, ColumnKind.integer.Shows o.scalar y := by
    intro o ho
    simp only [tierNotAmong, Condition.operands, List.mem_cons, List.not_mem_nil, or_false] at ho
    rcases ho with rfl | rfl
    · exact ⟨.integer 8, .integer rfl (by decide)⟩
    · exact ⟨.integer 9007199254740991, .integer rfl (by decide)⟩
  have hagrees := compiled_columnLeaf_agrees hkind hsingle hrow (rowEnv_binds _ _ _) trivial
    hoperands
  rwa [hroot] at hagrees

end Sql
end Sieve
