import Mathlib
import Sieve.Proofs.Sql.DocumentEquality
import Sieve.Proofs.Sql.Harmless
import Sieve.Proofs.Sql.Like
import Sieve.Proofs.Sql.Numbering

/-!
# Sieve.Proofs.Sql.Safety

Compiled predicates on rows of any content. Wherever a leaf looks at a document, the row may have
NULL or any document at all, fitting the kind of the column or not: no cast of a text that is no
number, no search in what is no array and no open pattern is ever evaluated, and the tests of
documents always come out. That is shown for each template, in a column as well as in an element of
an array, and then by induction over the predicate: `compiled_harmless`.
-/

namespace Sieve
namespace Sql

/-- An expression is harmless and comes out as a condition. -/
structure Sure (env : Env) (e : Expr) : Prop where
  harmless : Harmless env e
  decides : ∃ t, Decides env e t

section Rules

variable {env : Env} {e f : Expr} {x y : Option Datum}

theorem Sure.paren (h : Sure env e) : Sure env (.paren e) := by
  obtain ⟨t, ht⟩ := h.decides
  exact ⟨h.harmless, t, decides_paren ht⟩

theorem Sure.junction (c : Conjunction) (he : Sure env e) (hf : Sure env f) :
    Sure env (.junction c e f) := by
  obtain ⟨s, hs⟩ := he.decides
  obtain ⟨t, ht⟩ := hf.decides
  exact ⟨⟨he.harmless, hf.harmless⟩, _, decides_junction c hs ht⟩

theorem sure_truth (b : Bool) : Sure env (.truth b) := ⟨trivial, _, decides_truth b⟩

theorem sure_isNull (negated : Bool) (h : Harmless env e) (he : eval env e = .ok x) :
    Sure env (.isNull negated e) := ⟨h, _, decides_isNull negated he⟩

/-- The argument of a placeholder can be cast if it has been cast. -/
theorem harmlessParam_of_ok {p : Param} (h : env.param p = .ok x) : HarmlessParam env p := by
  intro a type ha htype d hd
  simp only [Env.param, ha, htype, hd, strict] at h
  cases hcast : d.castTo env.engine type with
  | ok d' => exact ⟨d', rfl⟩
  | error f =>
    rw [hcast] at h
    cases h

/-- The argument of a placeholder without a type is not cast. -/
theorem harmlessParam_untyped (index : Nat) : HarmlessParam env ⟨index, none⟩ := by
  rintro a type - ⟨⟩

theorem exists_forall₂ {α β : Type} {r : α → β → Prop} {as : List α} (h : ∀ a ∈ as, ∃ b, r a b) :
    ∃ bs, List.Forall₂ r as bs := by
  induction as with
  | nil => exact ⟨[], .nil⟩
  | cons a as ih =>
    obtain ⟨⟨b, hb⟩, hrest⟩ := List.forall_mem_cons.1 h
    obtain ⟨bs, hbs⟩ := ih hrest
    exact ⟨b :: bs, .cons hb hbs⟩

/-- A membership among values that the value can be compared with. -/
theorem sure_among {items : List Param} (negated : Bool) (h : Harmless env e)
    (he : eval env e = .ok x)
    (hitems : ∀ p ∈ items, ∃ y t, env.param p = .ok y ∧
      Datum.compareCells env.engine false .eq x y = .ok t) : Sure env (.among negated e items) := by
  have htruths : ∀ p ∈ items, ∃ t, ∃ y, env.param p = .ok y ∧
      Datum.compareCells env.engine false .eq x y = .ok t := fun p hp => by
    obtain ⟨y, t, hy, ht⟩ := hitems p hp
    exact ⟨t, y, hy, ht⟩
  obtain ⟨truths, hforall⟩ := exists_forall₂ htruths
  refine ⟨⟨h, fun p hp => ?_⟩, _, decides_among negated he hforall⟩
  obtain ⟨y, t, hy, -⟩ := hitems p hp
  exact harmlessParam_of_ok hy

theorem sure_compare {op : Comparison} {t : Truth} (he : Harmless env e) (hf : Harmless env f)
    (ht : Decides env (.compare op e f) t) : Sure env (.compare op e f) := ⟨⟨he, hf⟩, t, ht⟩

/-- What is bound to the placeholders of a list. -/
theorem argument_of_mem {α : Type} {items : List α} {bound : α → Argument} {first : Nat}
    {type : Option SqlType} (hargs : env.Binds first (items.map bound)) {p : Param}
    (hp : p ∈ paramsFrom first items.length type) :
    p.type = type ∧ ∃ a ∈ items, env.argument p.index = some (bound a) := by
  simp only [paramsFrom, List.mem_map, List.mem_range'_1] at hp
  obtain ⟨index, ⟨hge, hlt⟩, rfl⟩ := hp
  have hbelow : index - first < items.length := by omega
  have hindex : first + (index - first) = index := by omega
  have harg := hargs (index - first) (bound items[index - first]) (by simp [hbelow])
  rw [hindex] at harg
  exact ⟨rfl, _, List.getElem_mem hbelow, harg⟩

end Rules

/-! ## Operands -/

section Operands

variable {env : Env} {first : Nat} {items : List Operand}

/-- A number that is bound can be cast to a number, with rounding or not. -/
theorem param_numeric {index : Nat} {o : Operand} (hnum : o.scalar.isNumeric = true)
    (harg : env.argument index = some (.ofScalar o.scalar)) :
    ∃ q, env.param ⟨index, some .numeric⟩ = .ok (some (.numeric q)) := by
  obtain ⟨s, hfinite⟩ := o
  cases s with
  | bool b => cases hnum
  | text s => cases hnum
  | int n => exact ⟨_, by simp only [Env.param, harg]; rfl⟩
  | float x =>
    cases x with
    | finite x => exact ⟨_, by simp only [Env.param, harg]; rfl⟩
    | infinite negative => cases hfinite
    | nan => cases hfinite
  | uint n =>
    by_cases hlt : n.toNat < 2 ^ 63
    · have hint : Argument.ofScalar (.uint n) = .int (Int64.ofNat n.toNat) := if_pos hlt
      rw [hint] at harg
      exact ⟨_, by simp only [Env.param, harg]; rfl⟩
    · have hfloat : Argument.ofScalar (.uint n) = .float (.ofInt n.toNat) := if_neg hlt
      have hword : (n.toNat : Int).natAbs ≤ 2 ^ 64 := Nat.le_of_lt n.toNat_lt
      obtain ⟨x, hx⟩ := Binary64.ofInt_finite hword
      rw [hfloat, hx] at harg
      exact ⟨_, by simp only [Env.param, harg]; rfl⟩

theorem params_numbers (hitems : ∀ o ∈ items, o.scalar.isNumeric = true)
    (hargs : env.Binds first (items.map fun o => documentArgument o.scalar)) :
    ∀ p ∈ paramsFrom first items.length (some .numeric),
      ∃ q, env.param p = .ok (some (.numeric q)) := by
  rintro ⟨index, type⟩ hp
  obtain ⟨rfl, o, ho, harg⟩ := argument_of_mem hargs hp
  rw [documentArgument, if_pos (hitems o ho)] at harg
  exact param_numeric (hitems o ho) harg

theorem params_texts (hitems : ∀ o ∈ items, o.scalar.isNumeric = false)
    (hargs : env.Binds first (items.map fun o => documentArgument o.scalar)) :
    ∀ p ∈ paramsFrom first items.length none, ∃ s, env.param p = .ok (some (.text s)) := by
  rintro ⟨index, type⟩ hp
  obtain ⟨rfl, o, ho, harg⟩ := argument_of_mem hargs hp
  rw [documentArgument, hitems o ho] at harg
  exact ⟨o.scalar.asText, by simp only [Env.param, harg]; rfl⟩

end Operands

/-! ## Comparisons -/

section Comparisons

variable {engine : Engine}

/-- A number that may be missing can be compared with a number, in any way. -/
theorem comparable_numbers (bytewise : Bool) (op : Comparison) (r : Option ℚ) (q : ℚ) :
    ∃ t, Datum.compareCells engine bytewise op (r.map .numeric) (some (.numeric q)) = .ok t := by
  cases r <;> exact ⟨_, rfl⟩

/-- A text that may be missing can be compared with a text, in any way. -/
theorem comparable_texts (bytewise : Bool) (op : Comparison) (t : Option String) (s : String) :
    ∃ truth, Datum.compareCells engine bytewise op (t.map .text) (some (.text s)) = .ok truth := by
  cases t <;> exact ⟨_, rfl⟩

end Comparisons

/-! ## Accessors -/

section Accessors

variable {env : Env} {root : Expr} {content : Option Json} {path : List String} {first : Nat}

theorem harmless_members (h : Harmless env root) (path : List String) :
    Harmless env (path.foldl .member root) := by
  induction path generalizing root with
  | nil => exact h
  | cons key rest ih => exact ih (show Harmless env (.member root key) from h)

theorem harmless_documentAt (h : Harmless env root) (path : List String) :
    Harmless env (documentAt root path) := by
  cases path with
  | nil => exact h
  | cons key rest => exact harmless_members h (key :: rest)

theorem harmless_textChain (h : Harmless env root) (key : String) (rest : List String) :
    Harmless env (textChain root key rest) := by
  induction rest generalizing root key with
  | nil => exact h
  | cons next more ih => exact ih (show Harmless env (.member root key) from h) next

theorem harmless_textAt (h : Harmless env root) (path : List String) :
    Harmless env (textAt root path) := by
  cases path with
  | nil => exact h
  | cons key rest => exact harmless_textChain h key rest

/-- The text is cast to a number only where a number stands. -/
theorem harmless_numberAt (h : Harmless env root) (hroot : Shows env root content)
    (path : List String) : Harmless env (numberAt root path) := by
  have hkind := decides_kindIs (shows_documentAt hroot path) .eq "number"
  refine ⟨⟨harmless_documentAt h path, trivial⟩, fun hnumber =>
    ⟨harmless_textAt h path, fun x hx d hd => ?_⟩⟩
  have hshown := decides_unique hkind hnumber
  have htext := (eval_textAt hroot path).symm.trans hx
  obtain ⟨j, hj, hname⟩ := Option.map_eq_some_iff.1 hshown
  rw [Datum.textsHold_eq, beq_iff_eq] at hname
  obtain ⟨q, hq⟩ := kindName_eq_number_iff.1 hname
  obtain ⟨s, hs, hcast⟩ := castTo_number env.engine hq
  rw [hj, Option.bind_some, hs, Option.map_some, Except.ok.injEq] at htext
  rw [← htext, Option.some.injEq] at hd
  exact ⟨_, hd ▸ hcast⟩

theorem sure_kindIs (h : Harmless env root) (hroot : Shows env root content) (op : Comparison)
    (name : String) : Sure env (.compare op (.kind root) (.string name)) :=
  sure_compare h trivial (decides_kindIs hroot op name)

/-- What is searched is an array, whatever the column holds. -/
theorem eval_arrayOf (hroot : Shows env root content) :
    ∃ items, eval env (arrayOf root) = .ok (some (.json (.array items))) := by
  by_cases harray : ∃ items, content = some (.array items)
  · obtain ⟨items, rfl⟩ := harray
    exact ⟨items, eval_arrayOf_array hroot⟩
  · have hempty : Json.read? "[]" = some (.array []) := rfl
    have hfalse : content.map (fun j => j.kindName == "array") ≠ some true := by
      intro htrue
      obtain ⟨j, rfl, hname⟩ := Option.map_eq_some_iff.1 htrue
      obtain ⟨items, rfl⟩ := kindName_eq_array_iff.1 (beq_iff_eq.1 hname)
      exact harray ⟨items, rfl⟩
    refine ⟨[], ?_⟩
    rw [arrayOf, eval_choose (holdsArray_decides hroot), if_neg hfalse, eval_cast (eval_string "[]")]
    simp [strict, Datum.castTo, hempty, Except.map]

theorem harmless_arrayOf (h : Harmless env root) : Harmless env (arrayOf root) := by
  refine ⟨⟨h, trivial⟩, fun _ => h, fun _ => ⟨trivial, fun x hx d hd => ?_⟩⟩
  rw [eval_string, hd] at hx
  cases hx
  exact ⟨.json (.array []), rfl⟩

variable (h : Harmless env root) (hroot : Shows env root content)

include h hroot

variable (path)

theorem sure_present : Sure env (.isNull true (textAt root path)) :=
  sure_isNull true (harmless_textAt h path) (eval_textAt hroot path)

theorem sure_numberAmong {items : List Operand} (negated : Bool)
    (hitems : ∀ o ∈ items, o.scalar.isNumeric = true)
    (hargs : env.Binds first (items.map fun o => documentArgument o.scalar)) :
    Sure env (.among negated (numberAt root path)
      (paramsFrom first items.length (some .numeric))) := by
  refine sure_among negated (harmless_numberAt h hroot path) (eval_numberAt hroot path)
    fun p hp => ?_
  obtain ⟨q, hq⟩ := params_numbers hitems hargs p hp
  obtain ⟨t, ht⟩ := comparable_numbers false .eq _ q
  exact ⟨_, t, hq, ht⟩

theorem sure_textAmong {items : List Operand} (negated : Bool)
    (hitems : ∀ o ∈ items, o.scalar.isNumeric = false)
    (hargs : env.Binds first (items.map fun o => documentArgument o.scalar)) :
    Sure env (.among negated (textAt root path) (paramsFrom first items.length none)) := by
  refine sure_among negated (harmless_textAt h path) (eval_textAt hroot path) fun p hp => ?_
  obtain ⟨s, hs⟩ := params_texts hitems hargs p hp
  obtain ⟨t, ht⟩ := comparable_texts false .eq _ s
  exact ⟨_, t, hs, ht⟩

theorem sure_noNumber : Sure env (.isNull false (numberAt root path)) :=
  sure_isNull false (harmless_numberAt h hroot path) (eval_numberAt hroot path)

theorem sure_numberCompare {o : Operand} (op : Comparison) (hnum : o.scalar.isNumeric = true)
    (harg : env.argument first = some (.ofScalar o.scalar)) :
    Sure env (.compare op (numberAt root path) (numberParam first)) := by
  obtain ⟨q, hq⟩ := param_numeric hnum harg
  have hparam : eval env (numberParam first) = .ok (some (.numeric q)) := by
    rw [numberParam, eval, hq]
  obtain ⟨t, ht⟩ := comparable_numbers
    ((numberAt root path).isBytewise || (numberParam first).isBytewise) op _ q
  exact sure_compare (harmless_numberAt h hroot path) (harmlessParam_of_ok hq)
    (decides_compare (eval_numberAt hroot path) hparam ht)

variable {path}

/-- A comparison of the text at the end of a path, in either order of texts. -/
theorem sure_textCompare {e : Expr} {t : String} (op : Comparison)
    (he : e = textAt root path ∨ e = .bytewise (textAt root path))
    (harg : env.argument first = some (.text t)) :
    Sure env (.compare op e (textParam first)) := by
  have htext : eval env e =
      .ok (((content.bind (·.follow path)).bind (Datum.textOfJson env.engine)).map .text) := by
    rcases he with rfl | rfl
    · exact eval_textAt hroot path
    · rw [eval]
      exact eval_textAt hroot path
  have hharmless : Harmless env e := by
    rcases he with rfl | rfl <;> exact harmless_textAt h path
  obtain ⟨truth, htruth⟩ := comparable_texts
    (e.isBytewise || (textParam first).isBytewise) op _ t
  exact sure_compare hharmless (harmlessParam_untyped first)
    (decides_compare htext (eval_textParam harg) htruth)

/-! ## Templates -/

theorem sure_documentComparison {o : Operand} (op : Comparison)
    (harg : env.argument first = some (documentArgument o.scalar)) :
    Sure env (documentComparison root path op o.scalar.isNumeric first) := by
  unfold documentComparison
  cases hnum : o.scalar.isNumeric with
  | true =>
    rw [documentArgument, if_pos hnum] at harg
    have hcompare := fun op => sure_numberCompare path h hroot op hnum harg
    cases op with
    | ne =>
      exact ((sure_present path h hroot).junction .and
        ((sure_noNumber path h hroot).junction .or (hcompare .ne)).paren).paren
    | _ => exact hcompare _
  | false =>
    rw [documentArgument, hnum] at harg
    simp only [Bool.false_eq_true, if_false]
    split
    · have hkind := sure_kindIs (harmless_documentAt h path) (shows_documentAt hroot path)
        .ne "number"
      exact (hkind.junction .and (sure_textCompare h hroot op (.inr rfl) harg)).paren
    · exact sure_textCompare h hroot op (.inl rfl) harg

theorem sure_documentMembership {items : List Operand} (negated : Bool)
    (hargs : env.Binds first (documentArguments (.membership negated items))) :
    Sure env (documentTest root path (.membership negated items) first) := by
  rw [documentArguments, List.map_append, binds_append, List.length_map] at hargs
  have hnumbers := fun negated => sure_numberAmong path h hroot negated
    (fun o ho => (List.mem_filter.1 ho).2) hargs.1
  have htexts := fun negated => sure_textAmong path h hroot negated otherItems_other
    hargs.2
  have hpresent := sure_present path h hroot
  have hnumber := ((sure_noNumber path h hroot).junction .or (hnumbers true)).paren
  unfold documentTest
  -- Of either half there may be nothing.
  cases negated with
  | false =>
    simp only [Bool.false_eq_true, if_false]
    unfold documentAmong
    split
    · exact sure_truth false
    · exact hnumbers false
    · exact htexts false
    · exact ((hnumbers false).junction .or (htexts false)).paren
  | true =>
    simp only [if_true]
    unfold documentNotAmong
    split
    · exact hpresent
    · exact (hpresent.junction .and hnumber).paren
    · exact (hpresent.junction .and (htexts true)).paren
    · exact ((hpresent.junction .and hnumber).junction .and (htexts true)).paren

/-- A pattern is closed, so the text of whatever stands at the end of a path is tested for it. -/
theorem sure_documentLike (negated : Bool) {test : TextTest} {s : Scalar}
    (harg : env.argument first = some (.text (patternOf test s))) :
    Sure env (.like negated (textAt root path) (textParam first)) := by
  have hpattern := eval_textParam harg
  have hparts := parts?_patternOf test s
  refine ⟨⟨harmless_textAt h path, harmlessParam_untyped first, fun p hp => ?_⟩, ?_⟩
  · rw [hpattern] at hp
    cases hp
    rw [hparts]
    exact Option.some_ne_none _
  · unfold Decides
    rw [eval, eval_textAt hroot path, hpattern]
    generalize (content.bind (·.follow path)).bind (Datum.textOfJson env.engine) = text
    cases text with
    | none => exact ⟨none, rfl⟩
    | some t =>
      refine ⟨some (Pattern.fits (partsOf test s) t.toList != negated), ?_⟩
      simp only [Option.map_some, bind, Except.bind, textOf?, likeTruth, hparts]
      rfl

theorem sure_documentContains {j : Json} (harg : env.argument first = some (.json j)) :
    Sure env (.includes (documentAt root path) (.param ⟨first, some .jsonb⟩)) := by
  have hparam : env.param ⟨first, some .jsonb⟩ = .ok (some (.json j)) := by
    simp only [Env.param, harg]
    rfl
  refine ⟨⟨harmless_documentAt h path, harmlessParam_of_ok hparam⟩, ?_⟩
  have hshown : eval env (documentAt root path) = _ := shows_documentAt hroot path
  unfold Decides
  rw [eval, hshown, eval, hparam]
  generalize content.bind (·.follow path) = inner
  cases inner with
  | none => exact ⟨none, rfl⟩
  | some i => exact ⟨some (env.engine.includes i j), rfl⟩

/-- The test of a document comes out, whatever the document is. -/
theorem sure_documentTest {c : Condition} (path : List String)
    (hargs : env.Binds first (documentArguments c)) : Sure env (documentTest root path c first) := by
  have hat := harmless_documentAt h path
  have hshown := shows_documentAt hroot path
  cases c with
  | comparison op o => exact sure_documentComparison h hroot op (Env.binds_cons.1 hargs).1
  | membership negated items => exact sure_documentMembership h hroot negated hargs
  | textual test o =>
    cases test with
    | contains => exact sure_documentContains h hroot (Env.binds_cons.1 hargs).1
    | _ => exact sure_documentLike h hroot _ (Env.binds_cons.1 hargs).1
  | nullness negated =>
    cases negated with
    | false =>
      exact ((sure_isNull false hat hshown).junction .or (sure_kindIs hat hshown .eq "null")).paren
    | true => exact sure_kindIs hat hshown .ne "null"

/-- The test of an array comes out, whatever its elements are. -/
theorem sure_arrayTest {c : Condition} (path : List String)
    (hargs : env.Binds first (documentArguments c)) : Sure env (arrayTest root path c first) := by
  obtain ⟨items, hitems⟩ := eval_arrayOf hroot
  have heach : ∀ j, Sure (env.lookingAt j) (documentTest .element path c first) := fun j => by
    have hharmless : Harmless (env.lookingAt j) .element := trivial
    exact sure_documentTest hharmless (shows_element env j) path hargs
  have hsome : Sure env (.someElement (arrayOf root) (documentTest .element path c first)) := by
    obtain ⟨truths, htruths⟩ := exists_forall₂ fun j (_ : j ∈ items) => (heach j).decides
    refine ⟨⟨harmless_arrayOf h, fun d hd => ⟨items, ?_, fun j _ => (heach j).harmless⟩⟩, _,
      decides_someElement hitems htruths⟩
    rw [hitems] at hd
    cases hd
    rfl
  have hdistinct : Sure env (.distinct (.kind root) (.string "array")) :=
    ⟨⟨h, trivial⟩, _, decides_kindDistinct hroot "array"⟩
  cases c with
  | nullness negated =>
    cases negated with
    | false => exact (hdistinct.junction .or hsome).paren
    | true => exact hsome
  | _ => exact hsome

end Accessors

/-! ## Leaves -/

section Leaf

variable {env : Env} {catalog : Catalog} {l : Leaf} {first : Nat}

/-- Of a plain column nothing is cast but to a text. -/
theorem harmless_columnTest (column : String) {c : Condition}
    (hargs : env.Binds first (columnArguments c)) : Harmless env (columnTest column c first) := by
  have huntyped : ∀ count, ∀ p ∈ paramsFrom first count none, HarmlessParam env p := by
    intro count p hp
    obtain ⟨index, -, rfl⟩ := List.mem_map.1 hp
    exact harmlessParam_untyped index
  have hlike : ∀ (negated : Bool) (test : TextTest) (o : Operand),
      env.argument first = some (.text (patternOf test o.scalar)) →
      Harmless env (.like negated (.cast (.column column) .text) (textParam first)) := by
    refine fun negated test o harg =>
      ⟨⟨trivial, fun x _ d _ => by cases d <;> exact ⟨_, rfl⟩⟩, harmlessParam_untyped first,
        fun s hs => ?_⟩
    rw [eval_textParam harg] at hs
    cases hs
    rw [parts?_patternOf]
    exact Option.some_ne_none _
  cases c with
  | comparison op o => exact ⟨trivial, harmlessParam_untyped first⟩
  | membership negated items =>
    cases items with
    | nil => cases negated <;> exact trivial
    | cons o items => cases negated <;> exact ⟨trivial, huntyped _⟩
  | textual test o => cases test <;> exact hlike _ _ o (Env.binds_cons.1 hargs).1
  | nullness negated => exact trivial

/-- The columns in which leaves look at documents hold documents, or NULL. -/
def HoldsDocuments (env : Env) (catalog : Catalog) (ls : List Leaf) : Prop :=
  ∀ l ∈ ls, (targetOf catalog l).kind ≠ none →
    ∃ content : Option Json, env.row (targetOf catalog l).column = content.map .json

/-- A leaf that looks at documents comes out. -/
theorem sure_leafTest (hkind : (targetOf catalog l).kind ≠ none)
    (hcolumn : ∃ content : Option Json, env.row (targetOf catalog l).column = content.map .json)
    (hargs : env.Binds first (leafArguments catalog l)) : Sure env (leafTest catalog l first) := by
  obtain ⟨kind, hsome⟩ := Option.ne_none_iff_exists'.1 hkind
  obtain ⟨content, hrow⟩ := hcolumn
  have hshown : Shows env (.column (targetOf catalog l).column) content := by
    unfold Shows
    rw [eval, hrow]
  have hharmless : Harmless env (.column (targetOf catalog l).column) := trivial
  rw [leafArguments, hsome] at hargs
  have hdocument := sure_documentTest hharmless hshown (targetOf catalog l).path hargs
  have harray := sure_arrayTest hharmless hshown (targetOf catalog l).path hargs
  simp only [leafTest, hsome]
  cases kind with
  | scalar => exact hdocument
  | arrayOfScalars => exact harray
  | arrayOfObjects => exact harray
  | unknown =>
    have heval := eval_choose (holdsArray_decides hshown)
      (arrayTest (.column (targetOf catalog l).column) (targetOf catalog l).path l.condition first)
      (documentTest (.column (targetOf catalog l).column) (targetOf catalog l).path l.condition
        first)
    refine Sure.paren ⟨⟨⟨trivial, trivial⟩, fun _ => harray.harmless, fun _ => hdocument.harmless⟩,
      ?_⟩
    unfold Decides
    rw [heval]
    split
    · exact harray.decides
    · exact hdocument.decides

theorem harmless_leafTest
    (hcolumn : (targetOf catalog l).kind ≠ none →
      ∃ content : Option Json, env.row (targetOf catalog l).column = content.map .json)
    (hargs : env.Binds first (leafArguments catalog l)) :
    Harmless env (leafTest catalog l first) := by
  by_cases hkind : (targetOf catalog l).kind = none
  · rw [leafArguments, hkind] at hargs
    simp only [leafTest, hkind]
    exact harmless_columnTest _ hargs
  · exact (sure_leafTest hkind (hcolumn hkind) hargs).harmless

end Leaf

/-! ## Predicates -/

/-- A property that conditions have if their parts have it. -/
structure Inherited (holds : Expr → Prop) : Prop where
  truth : ∀ b, holds (.truth b)
  paren : ∀ {e}, holds e → holds (.paren e)
  junction : ∀ {a b} c, holds a → holds b → holds (.junction c a b)

section Inherited

variable {env : Env} {catalog : Catalog} {holds : Expr → Prop}

mutual

/-- The arguments of a predicate stand at the placeholders of its leaves. -/
theorem Inherited.test (h : Inherited holds) : ∀ {p : Predicate} {first : Nat},
    (∀ l ∈ p.leaves, ∀ k, env.Binds k (leafArguments catalog l) → holds (leafTest catalog l k)) →
    env.Binds first (arguments catalog p) → holds (Sql.test catalog first p)
  | .matchAll, first, _, _ => by
    rw [Sql.test]
    exact h.truth true
  | .leaf l, first, hleaf, hargs => by
    rw [arguments] at hargs
    rw [Sql.test]
    exact hleaf l (by simp [Predicate.leaves]) first hargs
  | .compound _ [], first, _, _ => by
    rw [Sql.test]
    exact h.truth true
  | .compound _ [p], first, hleaf, hargs => by
    rw [arguments, argumentsOf, argumentsOf, List.append_nil] at hargs
    rw [Predicate.leaves, Predicate.leavesOf, Predicate.leavesOf, List.append_nil] at hleaf
    rw [Sql.test]
    exact h.test hleaf hargs
  | .compound c (p :: q :: ps), first, hleaf, hargs => by
    rw [arguments, argumentsOf, binds_append] at hargs
    rw [Predicate.leaves, Predicate.leavesOf, List.forall_mem_append] at hleaf
    rw [Sql.test]
    · exact h.testAfter c (h.paren (h.test hleaf.1 hargs.1)) hleaf.2 hargs.2
    · exact fun hnil => by cases hnil

theorem Inherited.testAfter (h : Inherited holds) : ∀ {ps : List Predicate} (c : Conjunction)
    {before : Expr} {first : Nat}, holds before →
    (∀ l ∈ Predicate.leavesOf ps, ∀ k, env.Binds k (leafArguments catalog l) →
      holds (leafTest catalog l k)) →
    env.Binds first (argumentsOf catalog ps) → holds (Sql.testAfter catalog c before first ps)
  | [], c, before, first, hbefore, _, _ => by
    rw [Sql.testAfter]
    exact hbefore
  | p :: ps, c, before, first, hbefore, hleaf, hargs => by
    rw [argumentsOf, binds_append] at hargs
    rw [Predicate.leavesOf, List.forall_mem_append] at hleaf
    rw [Sql.testAfter]
    exact h.testAfter c (h.junction c hbefore (h.paren (h.test hleaf.1 hargs.1))) hleaf.2 hargs.2

end

theorem inherited_harmless : Inherited (Harmless env) where
  truth _ := trivial
  paren h := h
  junction _ ha hb := ⟨ha, hb⟩

theorem inherited_decides : Inherited fun e => ∃ t, Decides env e t where
  truth b := ⟨_, decides_truth b⟩
  paren := fun ⟨t, ht⟩ => ⟨t, decides_paren ht⟩
  junction c := fun ⟨_, hs⟩ ⟨_, ht⟩ => ⟨_, decides_junction c hs ht⟩

end Inherited

/-- On a row whose documents are of any shape, a compiled predicate never casts a text that is no
number, never searches in what is no array and never meets an open pattern; it comes out if the
tests of its plain columns do. -/
theorem compiled_harmless {env : Env} {catalog : Catalog} {p : Predicate} {first : Nat}
    (hargs : env.Binds first (compileFrom catalog p first).arguments)
    (hrow : HoldsDocuments env catalog p.leaves) :
    Harmless env (compileFrom catalog p first).condition ∧
      (∀ f, eval env (compileFrom catalog p first).condition = .error f → f.isLate = false) ∧
      ((∀ l ∈ p.leaves, (targetOf catalog l).kind = none → ∀ k,
          env.Binds k (leafArguments catalog l) → ∃ t, Decides env (leafTest catalog l k) t) →
        ∃ t, Decides env (compileFrom catalog p first).condition t) := by
  have hharmless : Harmless env (compileFrom catalog p first).condition :=
    inherited_harmless.test (fun l hl k hk => harmless_leafTest (hrow l hl) hk) hargs
  refine ⟨hharmless, hharmless.tame, fun hplain => ?_⟩
  refine inherited_decides.test (fun l hl k hk => ?_) hargs
  by_cases hkind : (targetOf catalog l).kind = none
  · exact hplain l hl hkind k hk
  · exact (sure_leafTest hkind (hrow l hl hkind) hk).decides

/-- The document `{"edge": "5"}`. -/
def edgeLabel : Json := .object [("edge", .text "5")]

/-- A row whose `labels` are an object and whose `vpas` are a text. -/
def looseEnv (arguments : List Argument) : Env :=
  { rowEnv "labels" (.json edgeLabel) arguments with
    row := fun name =>
      if name = "labels" then some (.json edgeLabel)
      else if name = "vpas" then some (.json (.text "40.5"))
      else none }

/-- The condition on an array comes out on a text in its place, and so does the one on a list of
scalars on an object. -/
theorem compiled_harmless_loose :
    let catalog :=
      (Catalog.empty.withDocument "labels" .unknown).withDocument "vpas" .arrayOfObjects
    let compiled := compileFrom catalog (.compound .or [.leaf labelsLeaf, .leaf capacityLeaf]) 1
    Harmless (looseEnv compiled.arguments) compiled.condition ∧
      ∃ t, Decides (looseEnv compiled.arguments) compiled.condition t := by
  intro catalog compiled
  have hleaves : (Predicate.compound .or [.leaf labelsLeaf, .leaf capacityLeaf]).leaves =
      [labelsLeaf, capacityLeaf] := by
    simp [Predicate.leaves, Predicate.leavesOf]
  have hlabels : (targetOf catalog labelsLeaf).column = "labels" ∧
      (targetOf catalog labelsLeaf).kind = some .unknown := by decide +kernel
  have hvpas : (targetOf catalog capacityLeaf).column = "vpas" ∧
      (targetOf catalog capacityLeaf).kind = some .arrayOfObjects := by decide +kernel
  have hargs : (looseEnv compiled.arguments).Binds 1 compiled.arguments :=
    rowEnv_binds "labels" (.json edgeLabel) compiled.arguments
  have hrow : HoldsDocuments (looseEnv compiled.arguments) catalog
      (Predicate.compound .or [.leaf labelsLeaf, .leaf capacityLeaf]).leaves := by
    intro l hl _
    rw [hleaves, List.mem_cons, List.mem_singleton] at hl
    rcases hl with rfl | rfl
    · exact ⟨some edgeLabel, by simp [hlabels.1, looseEnv]⟩
    · exact ⟨some (.text "40.5"), by simp [hvpas.1, looseEnv]⟩
  obtain ⟨hharmless, -, hdecides⟩ := compiled_harmless hargs hrow
  refine ⟨hharmless, hdecides fun l hl hkind => ?_⟩
  rw [hleaves, List.mem_cons, List.mem_singleton] at hl
  rcases hl with rfl | rfl
  · rw [hlabels.2] at hkind
    cases hkind
  · rw [hvpas.2] at hkind
    cases hkind

end Sql
end Sieve
