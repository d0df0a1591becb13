import Mathlib
import Sieve.Proofs.Sql.ColumnLeaf
import Sieve.Proofs.Text.Bytes

/-!
# Sieve.Proofs.Sql.TextOrder

The order of texts. The matcher orders texts by their bytes, and so does the test of a document,
whatever the database is set up to do. The test of a plain column leaves the order to the database,
and so agrees with the matcher exactly where the database puts the content and the operand in the
order of their bytes: `compiled_textOrder`. A dictionary order does not: `dictionary_order_differs`.
-/

namespace Sieve

namespace Comparison

/-- An order is told from its verdict, as long as it is known whether the two are equal. -/
theorem holds_order_iff {op : Comparison} (hop : op.isOrdering = true) {x y : Ordering}
    (h : x = .eq ↔ y = .eq) :
    (Sql.Datum.holdsInOrder op x = true ↔ Sql.Datum.holdsInOrder op y = true) ↔ x = y := by
  cases op <;> cases hop <;> cases x <;> cases y <;>
    simp_all [Sql.Datum.holdsInOrder, holds]

end Comparison

namespace Sql

/-- What a leaf looks at is, in the row, these texts: the text of a plain column, the text at the
end of the path in a document, or one such text in each element of an array. -/
inductive LeadsToTexts (env : Env) (target : Target) : List String → Prop where
  | column {s : String} (plain : target.kind = none)
      (content : env.row target.column = some (.text s)) : LeadsToTexts env target [s]
  | document {kind : DocumentKind} {j : Json} {s : String} (known : target.kind = some kind)
      (single : kind.isArray = false) (content : env.row target.column = some (.json j))
      (found : j.follow target.path = some (.text s)) : LeadsToTexts env target [s]
  | elements {kind : DocumentKind} {items : List Json} {ss : List String}
      (known : target.kind = some kind) (many : kind ≠ .scalar)
      (content : env.row target.column = some (.json (.array items)))
      (found : List.Forall₂ (fun j s => j.follow target.path = some (.text s)) items ss) :
      LeadsToTexts env target ss

section Matcher

variable {op : Comparison} {v : String}

/-- The matcher orders texts by their bytes. -/
theorem holds_textOrder (hop : op.isOrdering = true) (s : String) :
    (Condition.comparison op ⟨.text v, rfl⟩).holds (.scalar (.text s)) =
      Datum.holdsInOrder op (compare (Text.bytes s) (Text.bytes v)) := by
  rw [Text.compare_bytes, holds_scalar, Condition.holdsAt, Datum.holdsInOrder,
    holds_of_isOrdering hop _ (compare s v == .eq)]
  rfl

theorem any_holds_textOrder (hop : op.isOrdering = true) {found : List Found} {ss : List String}
    (h : found = ss.map fun s => .scalar (.text s)) :
    found.any (Condition.comparison op ⟨.text v, rfl⟩).holds = true ↔
      ∃ s ∈ ss, Datum.holdsInOrder op (compare (Text.bytes s) (Text.bytes v)) = true := by
  subst h
  simp only [List.any_map, List.any_eq_true, Function.comp_apply, holds_textOrder hop]

theorem findings_of_text {path : List String} {j : Json} {s : String}
    (h : j.follow path = some (.text s)) :
    Entity.findings path (.ofJson j) = [.scalar (.text s)] := by
  rw [Entity.findings_ofJson (Json.noArrayOn_of_follow h), h]
  exact Entity.findings_nil_of_atomic rfl

theorem findings_of_texts {path : List String} {items : List Json} {ss : List String}
    (h : List.Forall₂ (fun j s => j.follow path = some (.text s)) items ss) :
    Entity.findings path (.ofJson (.array items)) = ss.map fun s => .scalar (.text s) := by
  rw [Entity.findings_items]
  induction h with
  | nil => rfl
  | cons hj _ ih =>
    rw [List.flatMap_cons, List.map_cons, findings_of_text hj, ih, List.singleton_append]

end Matcher

section Database

variable {env : Env} {op : Comparison} {v s : String} {first : Nat} {column : String}

/-- The test of a plain column orders texts as the database is set up to. -/
theorem columnOrder_true (hop : op.isOrdering = true)
    (hrow : env.row column = some (.text s)) (harg : env.argument first = some (.text v)) :
    TrueWhen env (columnTest column (.comparison op ⟨.text v, rfl⟩) first)
      (Datum.holdsInOrder op (env.engine.collate s v) = true) := by
  have hcolumn : eval env (.column column) = .ok (some (.text s)) := by rw [eval, hrow]
  refine ⟨_, decides_compare hcolumn (eval_textParam harg) rfl, ?_⟩
  rw [Option.some.injEq, Datum.textsHold, holds_of_isOrdering hop _ (env.engine.collate s v == .eq)]
  rfl

theorem endsPlain_of_text {path : List String} {j : Json}
    (h : j.follow path = some (.text s)) : j.EndsPlain path := by
  refine ⟨Json.noArrayOn_of_follow h, fun inner hinner => ?_⟩
  rw [h, Option.some.injEq] at hinner
  exact hinner ▸ trivial

theorem endsPlain_of_texts {path : List String} {items : List Json} {ss : List String}
    (h : List.Forall₂ (fun j s => j.follow path = some (.text s)) items ss) :
    ∀ item ∈ items, item.EndsPlain path := by
  induction h with
  | nil => exact List.forall_mem_nil _
  | cons hj _ ih => exact List.forall_mem_cons.2 ⟨endsPlain_of_text hj, ih⟩

variable {catalog : Catalog} {l : Leaf} {kind : DocumentKind} {j : Json}

theorem admits_of_text {path : List String} (hsingle : kind.isArray = false)
    (h : j.follow path = some (.text s)) : Admits (Json.EndsPlain path) kind j := by
  have hends := endsPlain_of_text h
  cases kind with
  | scalar => exact hends
  | unknown =>
    cases j with
    | array items => cases path <;> cases h
    | _ => exact hends
  | arrayOfScalars => cases hsingle
  | arrayOfObjects => cases hsingle

/-- The test of a document orders texts as the matcher does, whatever the database is set up to. -/
theorem documentOrder_agrees (hop : op.isOrdering = true)
    (hcondition : l.condition = .comparison op ⟨.text v, rfl⟩)
    (hargs : env.Binds first (leafArguments catalog l))
    (hkind : (targetOf catalog l).kind = some kind)
    (hrow : env.row (targetOf catalog l).column = some (.json j))
    (hadmits : Admits (Json.EndsPlain (targetOf catalog l).path) kind j) :
    Agrees env (leafTest catalog l first)
      ((Entity.findings (targetOf catalog l).path (.ofJson j)).any l.condition.holds) := by
  have hcast : ∀ o ∈ l.condition.operands, CastsExactly env.engine o.scalar := by
    intro o ho
    rw [hcondition] at ho
    rw [List.mem_singleton.1 ho]
    refine ⟨fun n hn => ?_, rfl⟩
    cases hn
  have horderly : l.condition.IsOrderly := by
    rw [hcondition]
    exact .inl hop
  have hdoc : env.Binds first (documentArguments l.condition) := by
    rwa [leafArguments, hkind] at hargs
  have hshows : Shows env (.column (targetOf catalog l).column) (some j) := by
    unfold Shows
    rw [eval, hrow]
    rfl
  refine (agreesAtEnd_of_isOrderly horderly hcast hdoc).leafTest hkind hshows fun j' hj' => ?_
  exact Option.some.inj hj' ▸ hadmits

end Database

/-- An order of texts holds of an entity exactly if one of the texts at the end of its path and the
operand are so ordered by their bytes. The compiled condition says the same of every document; of a
plain column it does exactly if the collation of the database orders the two by their bytes. -/
theorem compiled_textOrder {env : Env} [Std.LawfulEqCmp env.engine.collate] {catalog : Catalog}
    {l : Leaf} {first : Nat} {op : Comparison} {v : String} {ss : List String} {e : Entity}
    (hordering : op.isOrdering = true) (hcondition : l.condition = .comparison op ⟨.text v, rfl⟩)
    (hargs : env.Binds first (compileFrom catalog (.leaf l) first).arguments)
    (hrow : LeadsToTexts env (targetOf catalog l) ss)
    (hentity : e.findings l.field.segments = ss.map fun s => .scalar (.text s)) :
    ((Predicate.leaf l).holds e = true ↔
      ∃ s ∈ ss, Datum.holdsInOrder op (compare (Text.bytes s) (Text.bytes v)) = true) ∧
    (Agrees env (compileFrom catalog (.leaf l) first).condition ((Predicate.leaf l).holds e) ↔
      ((targetOf catalog l).kind = none →
        ∀ s ∈ ss, env.engine.collate s v = compare (Text.bytes s) (Text.bytes v))) := by
  have hholds : (Predicate.leaf l).holds e = true ↔
      ∃ s ∈ ss, Datum.holdsInOrder op (compare (Text.bytes s) (Text.bytes v)) = true := by
    rw [Predicate.holds, Leaf.holds, hcondition]
    exact any_holds_textOrder hordering hentity
  have hleaf : env.Binds first (leafArguments catalog l) := by
    simpa only [compileFrom, arguments] using hargs
  have hdocument {kind : DocumentKind} {j : Json} (hkind : (targetOf catalog l).kind = some kind)
      (hcontent : env.row (targetOf catalog l).column = some (.json j))
      (hadmits : Admits (Json.EndsPlain (targetOf catalog l).path) kind j)
      (hfound : Entity.findings (targetOf catalog l).path (.ofJson j) =
        ss.map fun s => .scalar (.text s)) :
      Agrees env (leafTest catalog l first) ((Predicate.leaf l).holds e) := by
    rw [Predicate.holds, Leaf.holds, hentity, ← hfound]
    exact documentOrder_agrees hordering hcondition hleaf hkind hcontent hadmits
  refine ⟨hholds, ?_⟩
  simp only [compileFrom, test]
  cases hrow with
  | @column s plain content =>
    have harg : env.argument first = some (.text v) := by
      rw [leafArguments, plain, hcondition] at hleaf
      exact (Env.binds_cons.1 hleaf).1
    have htest : TrueWhen env (leafTest catalog l first)
        (Datum.holdsInOrder op (env.engine.collate s v) = true) := by
      simp only [leafTest, plain, hcondition]
      exact columnOrder_true hordering content harg
    -- Neither order ties texts that differ, and any other two orders differ in every verdict.
    have hequal : env.engine.collate s v = .eq ↔ compare (Text.bytes s) (Text.bytes v) = .eq := by
      rw [Std.LawfulEqCmp.compare_eq_iff_eq, Text.compare_bytes, Std.LawfulEqCmp.compare_eq_iff_eq]
    rw [agrees_iff htest, hholds]
    simp only [List.mem_singleton, exists_eq_left, forall_eq, plain, true_implies]
    exact Comparison.holds_order_iff hordering hequal
  | @document kind j s known single content found =>
    exact iff_of_true
      (hdocument known content (admits_of_text single found) (findings_of_text found))
      (by simp [known])
  | @elements kind items ss known many content found =>
    refine iff_of_true (hdocument known content ?_ (findings_of_texts found)) (by simp [known])
    cases kind with
    | scalar => exact absurd rfl many
    | _ => exact endsPlain_of_texts found

/-- The order of a dictionary: the case of letters tells texts apart that are otherwise equal. -/
def dictionaryOrder : String → String → Ordering := compareLex (compareOn Text.asciiLower) compare

instance : Std.TransCmp dictionaryOrder :=
  inferInstanceAs (Std.TransCmp (compareLex (compareOn Text.asciiLower) compare))

instance : Std.LawfulEqCmp dictionaryOrder where
  eq_of_compare h := compare_eq_iff_eq.1 (compareLex_eq_eq.1 h).2

/-- A database that orders texts as a dictionary does. -/
def dictionaryEngine : Engine := { plainEngine with collate := dictionaryOrder }

/-- A row with one column in such a database. -/
def dictionaryEnv (column : String) (d : Datum) (arguments : List Argument) : Env :=
  { rowEnv column d arguments with engine := dictionaryEngine }

section Dictionary

variable (column : String) (d : Datum) (arguments : List Argument)

theorem collate_dictionaryEnv :
    (dictionaryEnv column d arguments).engine.collate = dictionaryOrder := by
  rw [dictionaryEnv, dictionaryEngine]

instance : Std.TransCmp (dictionaryEnv column d arguments).engine.collate := by
  rw [collate_dictionaryEnv]
  infer_instance

instance : Std.LawfulEqCmp (dictionaryEnv column d arguments).engine.collate := by
  rw [collate_dictionaryEnv]
  infer_instance

theorem dictionaryEnv_binds : (dictionaryEnv column d arguments).Binds 1 arguments := by
  simpa only [Env.Binds, dictionaryEnv] using rowEnv_binds column d arguments

end Dictionary

/-- The leaf `name > "B"`. -/
def nameAfter : Leaf where
  field := ⟨"name", by decide +kernel⟩
  condition := .comparison .gt ⟨.text "B", rfl⟩

/-- Both orders put `c` behind `B`, and the elements of an array are put in order by their bytes. -/
theorem compiled_textOrder_names :
    let catalog := Catalog.empty.withDocument "NAME" .unknown
    let plain := compileFrom .empty (.leaf nameAfter) 1
    let known := compileFrom catalog (.leaf nameAfter) 1
    let names : List Json := [.text "a", .text "B"]
    Agrees (dictionaryEnv "name" (.text "c") plain.arguments) plain.condition
        ((Predicate.leaf nameAfter).holds (.map [("name", .leaf (.text "c"))])) ∧
      Agrees (dictionaryEnv "name" (.json (.array names)) known.arguments) known.condition
        ((Predicate.leaf nameAfter).holds (.map [("name", .ofJson (.array names))])) := by
  intro catalog plain known names
  have hfield : nameAfter.field.segments = ["name"] := by decide +kernel
  constructor
  · have hplain : (targetOf .empty nameAfter).kind = none := by decide +kernel
    have hcolumn : (targetOf .empty nameAfter).column = "name" := by decide +kernel
    have hcontent : (dictionaryEnv "name" (.text "c") plain.arguments).row
        (targetOf .empty nameAfter).column = some (.text "c") := by
      rw [hcolumn]
      rfl
    have hfound : (Entity.map [("name", .leaf (.text "c"))]).findings nameAfter.field.segments =
        ["c"].map fun s => .scalar (.text s) := by
      rw [hfield]
      rfl
    refine (compiled_textOrder rfl rfl (dictionaryEnv_binds _ _ _)
      (.column hplain hcontent) hfound).2.2 fun _ s hs => ?_
    rw [List.mem_singleton.1 hs, Text.compare_bytes]
    decide +kernel
  · have hkind : (targetOf catalog nameAfter).kind = some .unknown := by decide +kernel
    have hcolumn : (targetOf catalog nameAfter).column = "name" := by decide +kernel
    have hpath : (targetOf catalog nameAfter).path = [] := by decide +kernel
    have hcontent : (dictionaryEnv "name" (.json (.array names)) known.arguments).row
        (targetOf catalog nameAfter).column = some (.json (.array names)) := by
      rw [hcolumn]
      rfl
    have htexts : List.Forall₂ (fun j s => j.follow (targetOf catalog nameAfter).path =
        some (.text s)) names ["a", "B"] := by
      rw [hpath]
      exact .cons rfl (.cons rfl .nil)
    have hfound : (Entity.map [("name", .ofJson (.array names))]).findings
        nameAfter.field.segments = ["a", "B"].map fun s => .scalar (.text s) := by
      rw [hfield]
      rfl
    refine (compiled_textOrder rfl rfl (dictionaryEnv_binds _ _ _)
      (.elements hkind (by decide) hcontent htexts) hfound).2.2 fun hnone => ?_
    rw [hkind] at hnone
    cases hnone

/-- By their bytes `a` comes after `B`, in a dictionary before it. -/
theorem dictionary_order_differs :
    let compiled := compileFrom .empty (.leaf nameAfter) 1
    let env := dictionaryEnv "name" (.text "a") compiled.arguments
    Std.TransCmp env.engine.collate ∧ Std.LawfulEqCmp env.engine.collate ∧
      (Predicate.leaf nameAfter).holds (.map [("name", .leaf (.text "a"))]) = true ∧
      eval env compiled.condition = .ok (some (.bool false)) := by
  intro compiled env
  refine ⟨inferInstance, inferInstance, by decide +kernel, ?_⟩
  have hcondition : compiled.condition = .compare .gt (.column "name") (textParam 1) := by
    decide +kernel
  have hrow : eval env (.column "name") = .ok (some (.text "a")) := rfl
  have hkind : (targetOf .empty nameAfter).kind = none := by decide +kernel
  have hfirst : compiled.arguments[0]? = some (.text "B") := by
    simp only [compiled, compileFrom, arguments, leafArguments, hkind]
    rfl
  have hparam := eval_textParam (dictionaryEnv_binds "name" (.text "a") _ 0 _ hfirst)
  have horder : Datum.textsHold env.engine false .gt "a" "B" = false := by decide +kernel
  rw [hcondition]
  exact decides_compare hrow hparam (congrArg (fun b => Except.ok (some b)) horder)

end Sql
end Sieve
