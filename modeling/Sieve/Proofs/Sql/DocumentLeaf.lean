import Mathlib
import Sieve.Proofs.Sql.DocumentTest

/-!
# Sieve.Proofs.Sql.DocumentLeaf

Leaves on columns of documents. Whatever kind a column is registered with, the compiled condition of
a leaf comes out true on a row exactly when the matcher says that the document of the row satisfies
it: `compiled_documentLeaf_agrees`. Integers have to keep within 53 bits, and the numbers of the
leaf have to survive the cast of an argument: `documentLeaf_rounding_differs`.
-/

namespace Sieve

theorem FieldPath.segments_eq (p : FieldPath) : p.segments = p.root :: p.nested := by
  have hne : p.segments ≠ [] := by
    unfold FieldPath.segments pathSegments
    rw [Ne, List.map_eq_nil_iff]
    exact Text.split_ne_nil _ _
  obtain ⟨s, rest, h⟩ := List.exists_cons_of_ne_nil hne
  simp only [FieldPath.root, FieldPath.nested, h, List.headD_cons, List.drop_succ_cons,
    List.drop_zero]

namespace Json

/-- The path meets no array in the document and ends in something plain or nowhere. -/
def EndsPlain (path : List String) (j : Json) : Prop :=
  j.NoArrayOn path ∧ ∀ inner, j.follow path = some inner → inner.IsPlain

end Json

namespace Entity

/-- The content of a column as an entity. -/
def ofContent : Option Json → Entity
  | none => .null
  | some j => .ofJson j

theorem findings_null (path : List String) : findings path .null = [.null] := by
  cases path <;> simp [findings, resolve, itemFindings]

theorem findings_entry (root : String) (path : List String) (e : Entity) :
    findings (root :: path) (.map [(root, e)]) = findings path e := by
  simp [findings, resolve, resolveMember]

theorem findings_noEntry (root : String) (path : List String) :
    findings (root :: path) (.map []) = [.null] := by
  simp [findings, resolve, resolveMember, itemFindings]

theorem findings_items (path : List String) (items : List Json) :
    findings path (ofJson (.array items)) = items.flatMap fun j => findings path (ofJson j) := by
  have hitems : ofJsonItems items = items.map ofJson := by
    induction items with
    | nil => rw [ofJsonItems, List.map_nil]
    | cons j items ih => rw [ofJsonItems, List.map_cons, ih]
  rw [ofJson, findings_list, hitems, List.flatMap_map]

end Entity

namespace Sql

/-- An entity with the content of a column as its one entry; without content the entry is null or
missing. -/
def Carries (root : String) (content : Option Json) (e : Entity) : Prop :=
  e = .map [(root, .ofContent content)] ∨ content = none ∧ e = .map []

/-- A document fits the kind of its column, and a path into it, or into each of its elements where
the kind allows an array, ends in something plain. -/
def Fits (kind : DocumentKind) (path : List String) (j : Json) : Prop :=
  match kind, j with
  | .scalar, j => j.EndsPlain path
  | .unknown, .array items => ∀ item ∈ items, item.EndsPlain path
  | .unknown, j => j.EndsPlain path
  | _, .array items => ∀ item ∈ items, item.EndsPlain path
  | _, _ => False

/-- A document fits the kind of its column, and ends well, or each of its elements does where the
kind allows an array. -/
def Admits (ends : Json → Prop) (kind : DocumentKind) (j : Json) : Prop :=
  match kind, j with
  | .scalar, j => ends j
  | .unknown, .array items => ∀ item ∈ items, ends item
  | .unknown, j => ends j
  | _, .array items => ∀ item ∈ items, ends item
  | _, _ => False

theorem admits_array {ends : Json → Prop} {kind : DocumentKind} {j : Json}
    (hkind : kind.isArray = true) (h : Admits ends kind j) :
    ∃ items, j = .array items ∧ ∀ item ∈ items, ends item := by
  cases kind <;> cases hkind
  all_goals
    cases j with
    | array items => exact ⟨items, rfl, h⟩
    | _ => cases h

/-- A path through objects that ends in no container finds what stands there, or null. -/
theorem findings_of_atomicEnd {path : List String} {j : Json} (hway : j.NoArrayOn path)
    (hend : ∀ inner, j.follow path = some inner → inner.isComposite = false) :
    Entity.findings path (.ofJson j) = [foundAt (j.follow path)] := by
  rw [Entity.findings_ofJson hway]
  cases hinner : j.follow path with
  | none => rfl
  | some inner => exact Entity.findings_nil_of_atomic (hend inner hinner)

theorem findings_of_endsPlain {path : List String} {j : Json} (h : j.EndsPlain path) :
    Entity.findings path (.ofJson j) = [foundAt (j.follow path)] :=
  findings_of_atomicEnd h.1 fun inner hinner => Json.isComposite_of_isPlain (h.2 inner hinner)

theorem findings_of_carries {field : FieldPath} {content : Option Json} {e : Entity}
    (h : Carries field.root content e) :
    e.findings field.segments = Entity.findings field.nested (.ofContent content) := by
  rw [FieldPath.segments_eq]
  rcases h with rfl | ⟨rfl, rfl⟩
  · rw [Entity.findings_entry]
  · rw [Entity.findings_noEntry, Entity.ofContent, Entity.findings_null]

theorem holds_of_carries {l : Leaf} {content : Option Json} {e : Entity}
    (h : Carries l.field.root content e) :
    l.holds e = (Entity.findings l.field.nested (.ofContent content)).any l.condition.holds := by
  rw [Leaf.holds, findings_of_carries h]

section Leaf

variable {env : Env} {column : Expr} {content : Option Json} {path : List String}
  {c : Condition} {first : Nat}

theorem documentTest_agrees_content (h : Shows env column content) (hc : c.IsOrderly)
    (hcast : ∀ o ∈ c.operands, CastsExactly env.engine o.scalar)
    (hargs : env.Binds first (documentArguments c))
    (hplain : ∀ j, content = some j → j.EndsPlain path) :
    Agrees env (documentTest column path c first)
      ((Entity.findings path (.ofContent content)).any c.holds) := by
  have hends : ∀ inner, content.bind (·.follow path) = some inner → inner.IsPlain := by
    intro inner hinner
    obtain ⟨j, rfl, hj⟩ := Option.bind_eq_some_iff.1 hinner
    exact (hplain j rfl).2 inner hj
  have hfound : Entity.findings path (.ofContent content) =
      [foundAt (content.bind (·.follow path))] := by
    cases content with
    | none => exact Entity.findings_null path
    | some j => exact findings_of_endsPlain (hplain j rfl)
  rw [hfound, List.any_cons, List.any_nil, Bool.or_false]
  exact documentTest_agrees h hc hcast hargs hends

theorem holdsArray_decides (h : Shows env column content) :
    Decides env (holdsArray column) (content.map fun j => j.kindName == "array") :=
  decides_kindIs h .eq "array"

theorem kindName_eq_array_iff {j : Json} : j.kindName = "array" ↔ ∃ items, j = .array items := by
  cases j <;> simp [Json.kindName]

theorem eval_arrayOf_array {items : List Json} (h : Shows env column (some (.array items))) :
    eval env (arrayOf column) = .ok (some (.json (.array items))) := by
  rw [arrayOf, eval_choose (holdsArray_decides h)]
  exact h

theorem eval_arrayOf_null (h : Shows env column none) :
    eval env (arrayOf column) = .ok (some (.json (.array []))) := by
  have hempty : Json.read? "[]" = some (.array []) := rfl
  rw [arrayOf, eval_choose (holdsArray_decides h), if_neg (by simp),
    eval_cast (eval_string "[]")]
  simp [strict, Datum.castTo, hempty, Except.map]

theorem decides_kindDistinct (h : Shows env column content) (name : String) :
    Decides env (.distinct (.kind column) (.string name))
      (some (content.map Json.kindName != some name)) := by
  unfold Decides
  rw [eval, eval_kind h, eval_string]
  cases content with
  | none => rfl
  | some j =>
    simp only [Option.map_some, bind, Except.bind, Datum.compareCells, Datum.holds?,
      Datum.textsHold_eq]
    rfl

/-- Looking at any content that ends well, be it of a column or an element of an array, the test of
what stands at the end of a path agrees with the matcher. -/
def AgreesAtEnd (env : Env) (path : List String) (c : Condition) (first : Nat)
    (ends : Json → Prop) : Prop :=
  ∀ (element : Option Json) (root : Expr) (content : Option Json),
    Shows { env with element } root content → (∀ j, content = some j → ends j) →
      Agrees { env with element } (documentTest root path c first)
        ((Entity.findings path (.ofContent content)).any c.holds)

theorem agreesAtEnd_of_isOrderly (hc : c.IsOrderly)
    (hcast : ∀ o ∈ c.operands, CastsExactly env.engine o.scalar)
    (hargs : env.Binds first (documentArguments c)) :
    AgreesAtEnd env path c first (Json.EndsPlain path) :=
  fun _ _ _ hshows hends => documentTest_agrees_content hshows hc hcast hargs hends

theorem operator_eq_isNull : c.operator = .nullness false ↔ c = .nullness false := by
  cases c <;> simp [Condition.operator]

namespace AgreesAtEnd

variable {ends : Json → Prop} (htest : AgreesAtEnd env path c first ends)

include htest

/-- The elements of an array, each with the truth of the condition on it. -/
theorem elements {items : List Json} (hends : ∀ item ∈ items, ends item) :
    ∃ truths, List.Forall₂
        (fun j t => Decides (env.lookingAt j) (documentTest .element path c first) t)
        items truths ∧
      (some true ∈ truths ↔
        ((Entity.findings path (.ofJson (.array items))).any c.holds) = true) := by
  rw [Entity.findings_items]
  induction items with
  | nil => exact ⟨[], .nil, by simp⟩
  | cons j items ih =>
    obtain ⟨truths, htruths, hiff⟩ :=
      ih fun item hitem => hends item (List.mem_cons_of_mem _ hitem)
    have hshows := shows_element env j
    have hself : ∀ item, some j = some item → ends item := by
      intro item hitem
      cases hitem
      exact hends j (List.mem_cons_self ..)
    obtain ⟨t, ht, hhead⟩ := htest (some j) .element (some j) hshows hself
    refine ⟨t :: truths, .cons ht htruths, ?_⟩
    rw [List.mem_cons, List.flatMap_cons, List.any_append, Bool.or_eq_true, hiff, eq_comm, hhead]
    rfl

theorem someElement (h : Shows env column content) {items : List Json}
    (hitems : content = some (.array items)) (hends : ∀ item ∈ items, ends item) :
    Agrees env (.someElement (arrayOf column) (documentTest .element path c first))
      ((Entity.findings path (.ofContent content)).any c.holds) := by
  subst hitems
  obtain ⟨truths, htruths, hiff⟩ := htest.elements hends
  refine ⟨_, decides_someElement (eval_arrayOf_array h) htruths, ?_⟩
  rw [Option.some.injEq, List.contains_iff_mem, hiff]
  rfl

/-- The test of an array: without an array in the column, only the null check holds. -/
theorem arrayTest (h : Shows env column content)
    (hfits : ∀ j, content = some j → ∃ items, j = .array items ∧ ∀ item ∈ items, ends item) :
    Agrees env (arrayTest column path c first)
      ((Entity.findings path (.ofContent content)).any c.holds) := by
  have hsome : ∃ t, Decides env
        (.someElement (arrayOf column) (documentTest .element path c first)) t ∧
      (t = some true ↔
        content ≠ none ∧ ((Entity.findings path (.ofContent content)).any c.holds) = true) := by
    cases hcontent : content with
    | none =>
      subst hcontent
      exact ⟨_, decides_someElement (eval_arrayOf_null h) .nil, by simp⟩
    | some j =>
      obtain ⟨items, rfl, hends⟩ := hfits j hcontent
      obtain ⟨t, ht, hiff⟩ := htest.someElement h hcontent hends
      rw [hcontent] at hiff
      exact ⟨t, ht, by simpa using hiff⟩
  have hnull : content = none → (Entity.findings path (.ofContent content)).any c.holds =
      (c.operator == .nullness false) := by
    rintro rfl
    rw [Entity.ofContent, Entity.findings_null, List.any_cons, List.any_nil, Bool.or_false,
      holds_null]
  obtain ⟨t, ht, hiff⟩ := hsome
  by_cases hcheck : c = .nullness false
  · subst hcheck
    refine ⟨_, decides_paren (decides_junction .or (decides_kindDistinct h "array") ht), ?_⟩
    rw [Truth.join, Truth.or_eq_true, hiff]
    cases hcontent : content with
    | none =>
      rw [hcontent] at hnull
      simp [hnull, Condition.operator]
    | some j =>
      obtain ⟨items, rfl, -⟩ := hfits j hcontent
      simp [Json.kindName]
  · have hshape : Sql.arrayTest column path c first =
        .someElement (arrayOf column) (documentTest .element path c first) := by
      rcases c with _ | _ | _ | negated
      · rfl
      · rfl
      · rfl
      · cases negated with
        | true => rfl
        | false => exact absurd rfl hcheck
    rw [hshape]
    refine ⟨t, ht, hiff.trans ⟨And.right, fun hholds => ⟨fun hcontent => ?_, hholds⟩⟩⟩
    rw [hnull hcontent, beq_iff_eq] at hholds
    exact hcheck (operator_eq_isNull.1 hholds)

/-- A column of an unknown kind is tested as what it holds. -/
theorem unknownTest (h : Shows env column content)
    (hadmits : ∀ j, content = some j → Admits ends .unknown j) :
    Agrees env
      (.paren (.choose (holdsArray column) (Sql.arrayTest column path c first)
        (documentTest column path c first)))
      ((Entity.findings path (.ofContent content)).any c.holds) := by
  have heval := eval_choose (holdsArray_decides h) (Sql.arrayTest column path c first)
    (documentTest column path c first)
  by_cases harray : ∃ items, content = some (.array items)
  · obtain ⟨items, rfl⟩ := harray
    have hitems : ∀ j, some (Json.array items) = some j → ∃ items, j = .array items ∧
        ∀ item ∈ items, ends item := by
      intro j hj
      cases hj
      exact ⟨items, rfl, hadmits _ rfl⟩
    obtain ⟨t, ht, hiff⟩ := htest.arrayTest h hitems
    rw [if_pos (by simp [Json.kindName])] at heval
    exact ⟨t, decides_paren (heval.trans ht), hiff⟩
  · have hends : ∀ j, content = some j → ends j := by
      intro j hj
      have hadmitted := hadmits j hj
      cases j with
      | array items => exact absurd ⟨items, hj⟩ harray
      | _ => exact hadmitted
    have hfalse : content.map (fun j => j.kindName == "array") ≠ some true := by
      cases content with
      | none => simp
      | some j =>
        rw [Option.map_some, Ne, Option.some.injEq, beq_iff_eq, kindName_eq_array_iff]
        rintro ⟨items, rfl⟩
        exact harray ⟨items, rfl⟩
    obtain ⟨t, ht, hiff⟩ := htest env.element column content h hends
    rw [if_neg hfalse] at heval
    exact ⟨t, decides_paren (heval.trans ht), hiff⟩

end AgreesAtEnd

end Leaf

/-- The test of a leaf on a column of documents, whatever the kind of the column. -/
theorem AgreesAtEnd.leafTest {env : Env} {catalog : Catalog} {l : Leaf} {first : Nat}
    {ends : Json → Prop} {kind : DocumentKind} {content : Option Json}
    (htest : AgreesAtEnd env (targetOf catalog l).path l.condition first ends)
    (hkind : (targetOf catalog l).kind = some kind)
    (h : Shows env (.column (targetOf catalog l).column) content)
    (hadmits : ∀ j, content = some j → Admits ends kind j) :
    Agrees env (leafTest catalog l first)
      ((Entity.findings (targetOf catalog l).path (.ofContent content)).any l.condition.holds) := by
  simp only [Sql.leafTest, hkind]
  cases kind with
  | scalar => exact htest env.element _ content h hadmits
  | unknown => exact htest.unknownTest h hadmits
  | arrayOfScalars => exact htest.arrayTest h fun j hj => admits_array rfl (hadmits j hj)
  | arrayOfObjects => exact htest.arrayTest h fun j hj => admits_array rfl (hadmits j hj)

theorem targetOf_of_kind {catalog : Catalog} {l : Leaf} {kind : DocumentKind}
    (h : catalog.kind? (catalog.columnFor l.field.root) = some kind) :
    targetOf catalog l =
      ⟨catalog.columnFor l.field.root, some kind, l.field.nested.map Text.lower⟩ := by
  simp [targetOf, h]

theorem leafArguments_of_kind {catalog : Catalog} {l : Leaf} {kind : DocumentKind}
    (h : catalog.kind? (catalog.columnFor l.field.root) = some kind) :
    leafArguments catalog l = documentArguments l.condition := by
  rw [leafArguments, targetOf_of_kind h]

/-- A database that orders texts by their bytes. -/
def plainEngine : Engine where
  collate := compare
  numeric := Finite.toNumeric
  render := fun _ => ""
  includes := fun _ _ => false

/-- A row with one column, and arguments from `$1` on. -/
def rowEnv (column : String) (d : Datum) (arguments : List Argument) : Env where
  engine := plainEngine
  row := fun name => if name = column then some d else none
  argument := fun index => if index = 0 then none else arguments[index - 1]?
  element := none

theorem rowEnv_binds (column : String) (d : Datum) (arguments : List Argument) :
    (rowEnv column d arguments).Binds 1 arguments := by
  intro i a ha
  have hindex : 1 + i - 1 = i := by omega
  simp only [rowEnv, hindex, ha, if_neg (show 1 + i ≠ 0 by omega)]

/-- The leaf `vpas.cell.capacity >= 40.5`. -/
def capacityLeaf : Leaf where
  field := ⟨"vpas.cell.capacity", by decide +kernel⟩
  condition := .comparison .ge
    ⟨.float (.finite ⟨false, 81 * 2 ^ 1073, by decide +kernel⟩), rfl⟩

end Sql
end Sieve
