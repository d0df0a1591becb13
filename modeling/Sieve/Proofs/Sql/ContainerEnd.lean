import Mathlib
import Sieve.Proofs.Sql.Safety

/-!
# Sieve.Proofs.Sql.ContainerEnd

Paths that end in a container. The matcher takes a record there as present and nothing else, and an
array as its elements; the database takes either one as its text. So a compiled condition is true
exactly when the matcher would say yes to that text, and the two agree exactly where it says the
same of the text as of the container: `compiled_containerEnd`. They differ where inequality is
asked of a record: `record_differs`.
-/

namespace Sieve

namespace Json

/-- A record, or an array without containers in it. -/
def IsContainer : Json → Prop
  | .object _ => True
  | .array items => ∀ j ∈ items, j.isComposite = false
  | _ => False

end Json

/-- What the matcher says of a container: of a record what it says of anything that is present and
no scalar, of an array what it says of one of the elements. -/
def Condition.holdsInside (c : Condition) : Json → Bool
  | .array items => items.any fun j => c.holds (Sql.foundAt (some j))
  | _ => c.holds .composite

namespace Sql

/-- The text of a document begins with a bracket. -/
def BeginsWithBracket (text : String) : Prop :=
  ∃ rest, text.toList = '[' :: rest ∨ text.toList = '\x7b' :: rest

section Matcher

variable {c : Condition} {inner : Json}

theorem any_holds_container (h : inner.IsContainer) :
    (Entity.findings [] (.ofJson inner)).any c.holds = c.holdsInside inner := by
  cases inner with
  | object members =>
    simp [Entity.ofJson, Entity.findings, Entity.resolve, Entity.itemFindings,
      Condition.holdsInside]
  | array items =>
    have heach : ∀ j ∈ items, (Entity.findings [] (.ofJson j)).any c.holds =
        c.holds (foundAt (some j)) := fun j hj => by
      rw [Entity.findings_nil_of_atomic (h j hj), List.any_cons, List.any_nil, Bool.or_false]
      rfl
    rw [Entity.findings_items, List.any_flatMap, Bool.eq_iff_iff, List.any_eq_true]
    rw [Condition.holdsInside, List.any_eq_true]
    exact exists_congr fun j => and_congr_right fun hj => by rw [heach j hj]
  | _ => cases h

/-- A text that begins with a bracket is the text of no truth value, so it is equal to an operand
exactly if it is its text and the operand is no number. -/
theorem equal_text_iff {text : String} (h : BeginsWithBracket text) (o : Operand) :
    o.scalar.equal (.text text) = true ↔ o.scalar.isNumeric = false ∧ text = o.scalar.asText := by
  obtain ⟨s, hfinite⟩ := o
  cases s with
  | text t =>
    have hequal : (Scalar.text t).equal (.text text) = (t == text) := rfl
    rw [hequal, beq_iff_eq]
    exact ⟨fun heq => ⟨rfl, heq.symm⟩, fun heq => heq.2.symm⟩
  | bool b =>
    refine iff_of_false Bool.false_ne_true fun ⟨_, htext⟩ => ?_
    obtain ⟨rest, hrest⟩ := h
    have htruth : text = Scalar.truth b := htext
    rw [htruth] at hrest
    cases b <;> rcases hrest with hrest | hrest <;> cases hrest
  | _ => exact iff_of_false Bool.false_ne_true fun h => Bool.noConfusion h.1

end Matcher

/-! ## Templates -/

section Lists

variable {env : Env} {root : Expr} {path : List String} {numbers texts : List Param} {p q r : Prop}

/-- A list is among the numbers and texts if it is so for either half; an empty half is left
out. -/
theorem documentAmong_true
    (hnumbers : TrueWhen env (.among false (numberAt root path) numbers) p)
    (htexts : TrueWhen env (.among false (textAt root path) texts) q)
    (hp : numbers = [] → ¬ p) (hq : texts = [] → ¬ q) :
    TrueWhen env (documentAmong root path numbers texts) (p ∨ q) := by
  unfold documentAmong
  split
  · exact ⟨some false, decides_truth false, by simp [hp rfl, hq rfl]⟩
  · exact hnumbers.congr (by simp [hq rfl])
  · exact htexts.congr (by simp [hp rfl])
  · exact (hnumbers.either htexts).paren

theorem documentNotAmong_true (hpresent : TrueWhen env (.isNull true (textAt root path)) p)
    (hnumbers : TrueWhen env (.paren (either (.isNull false (numberAt root path))
      (.among true (numberAt root path) numbers))) q)
    (htexts : TrueWhen env (.among true (textAt root path) texts) r)
    (hq : numbers = [] → q) (hr : texts = [] → r) :
    TrueWhen env (documentNotAmong root path numbers texts) (p ∧ q ∧ r) := by
  unfold documentNotAmong
  split
  · exact hpresent.congr (by simp [hq rfl, hr rfl])
  · exact (hpresent.both hnumbers).paren.congr (by simp [hr rfl])
  · exact (hpresent.both htexts).paren.congr (by simp [hq rfl])
  · exact ((hpresent.both hnumbers).both htexts).paren.congr and_assoc

/-- Nothing is known of a membership of NULL, unless the list is empty. -/
theorem among_null {e : Expr} {items : List Param} (negated : Bool) (he : eval env e = .ok none)
    (hitems : ∀ p ∈ items, ∃ y, env.param p = .ok y) :
    TrueWhen env (.among negated e items) (negated = true ∧ items = []) := by
  have htruths : List.Forall₂ (fun p t => ∃ y, env.param p = .ok y ∧
      Datum.compareCells env.engine false .eq none y = .ok t) items (items.map fun _ => none) := by
    refine List.forall₂_map_right_iff.2 (List.forall₂_same.2 fun p hp => ?_)
    obtain ⟨y, hy⟩ := hitems p hp
    exact ⟨y, hy, rfl⟩
  refine ⟨_, decides_among negated he htruths, ?_⟩
  cases negated with
  | false => simp [Truth.any_eq_true]
  | true =>
    rw [if_pos rfl, Truth.not_eq_true, Truth.any_eq_false, List.forall_mem_map,
      List.eq_nil_iff_forall_not_mem]
    simp

end Lists

section Container

variable {env : Env} {root : Expr} {content : Option Json} {path : List String} {first : Nat}
  {inner : Json}

/-- A container as the accessors show it: a text, and no number. -/
structure ShownContainer (env : Env) (root : Expr) (path : List String) (text : String) : Prop where
  present : Decides env (.isNull true (textAt root path)) (some true)
  text : eval env (textAt root path) = .ok (some (.text text))
  number : eval env (numberAt root path) = .ok none
  noNumber : Decides env (.compare .ne (.kind (documentAt root path)) (.string "number"))
    (some true)
  notNull : Decides env (.compare .ne (.kind (documentAt root path)) (.string "null")) (some true)
  isNull : Decides env (.paren (either (.isNull false (documentAt root path))
    (.compare .eq (.kind (documentAt root path)) (.string "null")))) (some false)

theorem shownContainer (hroot : Shows env root content)
    (hinner : content.bind (·.follow path) = some inner) (hcontainer : inner.IsContainer) :
    ShownContainer env root path (env.engine.render (.json inner)) := by
  have hdoc := shows_documentAt hroot path
  have hpresent : Decides env (.isNull true (textAt root path)) _ := decides_present hroot
  have htext := eval_textAt hroot path
  have hnumber := eval_numberAt hroot path
  have hkind := fun op name => decides_kindIs hdoc op name
  have hnone := decides_isNull false hdoc
  rw [hinner] at hpresent htext hnumber hkind hnone
  cases inner with
  | array items =>
    exact ⟨hpresent, htext, hnumber, hkind .ne "number", hkind .ne "null",
      decides_paren (decides_junction .or hnone (hkind .eq "null"))⟩
  | object members =>
    exact ⟨hpresent, htext, hnumber, hkind .ne "number", hkind .ne "null",
      decides_paren (decides_junction .or hnone (hkind .eq "null"))⟩
  | _ => cases hcontainer

variable {text : String} (h : ShownContainer env root path text)

include h

/-- A number is unlike any container, and in no order with it. -/
theorem numberTest_true {op : Comparison} {o : Operand} (hnum : o.scalar.isNumeric = true)
    (harg : env.argument first = some (.ofScalar o.scalar)) :
    TrueWhen env (documentComparison root path op true first)
      ((Condition.comparison op o).holdsAt (.text text) = true) := by
  obtain ⟨q, hq⟩ := param_numeric hnum harg
  have hparam : eval env (numberParam first) = .ok (some (.numeric q)) := by
    rw [numberParam, eval, hq]
  have hunknown : ∀ op, Decides env (.compare op (numberAt root path) (numberParam first)) none :=
    fun op => decides_compare h.number hparam rfl
  obtain ⟨x, hx⟩ := number?_some_of hnum
  have hverdict : (Condition.comparison op o).holdsAt (.text text) = op.holds false none := by
    have hother : (Scalar.text text).number? = none := rfl
    rw [Condition.holdsAt, (Scalar.equal_apart hx hother).1, (Scalar.compare?_apart hx hother).2]
  rw [hverdict]
  by_cases hop : op = .ne
  · subst hop
    have hno := decides_paren (decides_junction .or (decides_isNull false h.number) (hunknown .ne))
    exact ⟨_, decides_paren (decides_junction .and h.present hno), iff_of_true rfl rfl⟩
  · have hshape : documentComparison root path op true first =
        .compare op (numberAt root path) (numberParam first) := by
      cases op <;> first | rfl | exact absurd rfl hop
    rw [hshape]
    refine ⟨none, hunknown op, iff_of_false (by simp) ?_⟩
    cases op <;> first | exact absurd rfl hop | exact Bool.false_ne_true

/-- All else is compared with the text of a container. -/
theorem otherTest_true {op : Comparison} {o : Operand} (hbracket : BeginsWithBracket text)
    (hnum : o.scalar.isNumeric = false)
    (harg : env.argument first = some (.text o.scalar.asText)) :
    TrueWhen env (documentComparison root path op false first)
      ((Condition.comparison op o).holdsAt (.text text) = true) := by
  have hparam := eval_textParam harg
  have hequal : (Scalar.text text).equal o.scalar = (text == o.scalar.asText) := by
    rw [Condition.equal_other_comm hnum, Bool.eq_iff_iff, equal_text_iff hbracket, beq_iff_eq]
    simp [hnum]
  have horder : (Scalar.text text).compare? o.scalar = some (compare text o.scalar.asText) := by
    have hother : (Scalar.text text).number? = none := rfl
    simp only [Scalar.compare?, hother, number?_none_of hnum]
    rfl
  rw [Condition.holdsAt, hequal, horder]
  unfold documentComparison
  simp only [Bool.false_eq_true, if_false]
  split
  · have hbytes : eval env (.bytewise (textAt root path)) = .ok (some (.text text)) := h.text
    have hcompare : Decides env (.compare op (.bytewise (textAt root path)) (textParam first))
        (some (op.holds (text == o.scalar.asText) (some (compare text o.scalar.asText)))) :=
      decides_compare hbytes hparam rfl
    exact ⟨_, decides_paren (decides_junction .and h.noNumber hcompare), by
      simp [Truth.join, Truth.and_eq_true]⟩
  · next hop =>
    refine ⟨_, decides_compare h.text hparam rfl, ?_⟩
    cases op with
    | eq => simp [Datum.textsHold_eq, Comparison.holds]
    | ne => simp [Datum.textsHold_ne, Comparison.holds]
    | _ => exact absurd rfl hop

omit h in
theorem paramsFrom_eq_nil {α : Type} {items : List α} {type : Option SqlType} :
    paramsFrom first items.length type = [] ↔ items = [] := by
  simp [paramsFrom]

/-- The texts of a list against the text of a container. -/
theorem textMembers_true {items : List Operand} (hitems : ∀ o ∈ items, o.scalar.isNumeric = false)
    (hargs : env.Binds first (items.map fun o => documentArgument o.scalar)) :
    TrueWhen env (.among false (textAt root path) (paramsFrom first items.length none))
        (∃ o ∈ items, text = o.scalar.asText) ∧
      TrueWhen env (.among true (textAt root path) (paramsFrom first items.length none))
        (∀ o ∈ items, text ≠ o.scalar.asText) := by
  have htruths := @text_truths _ _ _ (some text) hitems hargs
  refine ⟨⟨_, decides_among false h.text htruths, any_compared.trans ?_⟩,
    ⟨_, decides_among true h.text htruths, none_compared.trans ?_⟩⟩ <;> simp

/-- Of a list only what is no number can be the text of a container. -/
theorem membershipTest_true {items : List Operand} (negated : Bool)
    (hbracket : BeginsWithBracket text)
    (hargs : env.Binds first (documentArguments (.membership negated items))) :
    TrueWhen env (documentTest root path (.membership negated items) first)
      ((Condition.membership negated items).holdsAt (.text text) = true) := by
  have hmatcher : (Condition.membership negated items).holdsAt (.text text) = true ↔
      ((∃ o ∈ otherItems items, text = o.scalar.asText) ↔ negated = false) := by
    have hmember : (items.any fun o => o.scalar.equal (.text text)) = true ↔
        ∃ o ∈ otherItems items, text = o.scalar.asText := by
      simp only [List.any_eq_true, equal_text_iff hbracket, otherItems, List.mem_filter,
        Bool.not_eq_true', and_assoc]
    rw [Condition.holdsAt, ← hmember]
    cases (items.any fun o => o.scalar.equal (.text text)) <;> cases negated <;> simp
  rw [documentArguments, List.map_append, binds_append, List.length_map] at hargs
  have hnumbers := fun negated => among_null negated h.number fun p hp => by
    obtain ⟨q, hq⟩ := params_numbers (fun o ho => (List.mem_filter.1 ho).2) hargs.1 p hp
    exact ⟨_, hq⟩
  obtain ⟨htexts, hothers⟩ := textMembers_true h otherItems_other hargs.2
  cases negated with
  | false =>
    refine (documentAmong_true (hnumbers false) htexts (fun _ => by simp) fun hnil => ?_).congr ?_
    · simp [paramsFrom_eq_nil.1 hnil]
    · simp [hmatcher]
  | true =>
    have hpresent : TrueWhen env (.isNull true (textAt root path)) True :=
      ⟨_, h.present, by simp⟩
    have hno : TrueWhen env (.isNull false (numberAt root path)) True :=
      ⟨_, decides_isNull false h.number, by simp⟩
    refine (documentNotAmong_true hpresent (hno.either (hnumbers true)).paren hothers
      (fun _ => .inl trivial) fun hnil => ?_).congr ?_
    · simp [paramsFrom_eq_nil.1 hnil]
    · simp [hmatcher]

/-- A pattern is looked for in the text of a container. -/
theorem likeTest_true {test : TextTest} {o : Operand} (htest : test ≠ .contains)
    (harg : env.argument first = some (.text (patternOf test o.scalar))) :
    TrueWhen env (documentTest root path (.textual test o) first)
      ((Condition.textual test o).holdsAt (.text text) = true) := by
  have htext : eval env (textAt root path) =
      .ok ((some (Scalar.text text)).map fun s => .text s.asText) := h.text
  rw [documentTest_textual htest]
  exact ⟨_, decides_like htext (eval_textParam harg), by simp [Condition.holdsAt]⟩

/-- The test of a container is true exactly when the matcher would say yes to its text. -/
theorem containerTest_true {c : Condition} (hbracket : BeginsWithBracket text)
    (hc : c.operator ≠ .textual .contains) (hargs : env.Binds first (documentArguments c)) :
    TrueWhen env (documentTest root path c first) (c.holdsAt (.text text) = true) := by
  cases c with
  | comparison op o =>
    have harg := (Env.binds_cons.1 hargs).1
    have hshape : documentTest root path (.comparison op o) first =
        documentComparison root path op o.scalar.isNumeric first := rfl
    rw [hshape]
    cases hnum : o.scalar.isNumeric with
    | true =>
      rw [documentArgument, if_pos hnum] at harg
      exact numberTest_true h hnum harg
    | false =>
      rw [documentArgument, hnum] at harg
      exact otherTest_true h hbracket hnum harg
  | membership negated items => exact membershipTest_true h negated hbracket hargs
  | textual test o =>
    have htest : test ≠ .contains := fun heq => hc (by rw [heq, Condition.operator])
    rw [documentArguments_textual htest] at hargs
    exact likeTest_true h htest (Env.binds_cons.1 hargs).1
  | nullness negated =>
    cases negated with
    | false => exact ⟨_, h.isNull, by simp [Condition.holdsAt]⟩
    | true => exact ⟨_, h.notNull, by simp [Condition.holdsAt]⟩

end Container

/-- Where a path ends in a container, the compiled condition is true exactly when the matcher says
yes to the text of the container, while the matcher itself looks at the container; so the two agree
exactly if it says the same of both. -/
theorem compiled_containerEnd {env : Env} {catalog : Catalog} {l : Leaf} {first : Nat}
    {j inner : Json} {e : Entity}
    (hkind : catalog.kind? (catalog.columnFor l.field.root) = some .scalar)
    (hlower : l.field.nested.map Text.lower = l.field.nested)
    (hrow : env.row (catalog.columnFor l.field.root) = some (.json j))
    (hargs : env.Binds first (compileFrom catalog (.leaf l) first).arguments)
    (hend : j.follow l.field.nested = some inner) (hcontainer : inner.IsContainer)
    (hbracket : BeginsWithBracket (env.engine.render (.json inner)))
    (hentity : Carries l.field.root (some j) e)
    (hcontains : l.condition.operator ≠ .textual .contains) :
    TrueWhen env (compileFrom catalog (.leaf l) first).condition
        (l.condition.holdsAt (.text (env.engine.render (.json inner))) = true) ∧
      (Predicate.leaf l).holds e = l.condition.holdsInside inner ∧
      (Agrees env (compileFrom catalog (.leaf l) first).condition ((Predicate.leaf l).holds e) ↔
        l.condition.holdsAt (.text (env.engine.render (.json inner))) =
          l.condition.holdsInside inner) := by
  have hshows : Shows env (.column (catalog.columnFor l.field.root)) (some j) := by
    unfold Shows
    rw [eval, hrow]
    rfl
  have htarget := targetOf_of_kind hkind
  rw [hlower] at htarget
  have hdoc : env.Binds first (documentArguments l.condition) := by
    rw [← leafArguments_of_kind hkind]
    simpa only [compileFrom, arguments] using hargs
  have hdatabase : TrueWhen env (compileFrom catalog (.leaf l) first).condition
      (l.condition.holdsAt (.text (env.engine.render (.json inner))) = true) := by
    simp only [compileFrom, test, leafTest, htarget]
    exact containerTest_true (shownContainer hshows hend hcontainer) hbracket hcontains hdoc
  have hmatcher : (Predicate.leaf l).holds e = l.condition.holdsInside inner := by
    have hfindings := Entity.findings_ofJson (Json.noArrayOn_of_follow hend)
    rw [hend] at hfindings
    rw [Predicate.holds, holds_of_carries hentity, Entity.ofContent, hfindings]
    exact any_holds_container hcontainer
  refine ⟨hdatabase, hmatcher, (agrees_iff hdatabase _).trans ?_⟩
  rw [hmatcher, ← Bool.eq_iff_iff]

/-- A database that writes documents without blanks. -/
def compactEngine : Engine :=
  { plainEngine with
    render := fun
      | .json j => j.compact
      | _ => "" }

/-- A row with the one document `metadata`. -/
def metadataEnv (j : Json) (arguments : List Argument) : Env :=
  { rowEnv "metadata" (.json j) arguments with engine := compactEngine }

/-- The leaf `metadata.labels LIKE "north"`. -/
def labelsLike : Leaf where
  field := ⟨"metadata.labels", by decide +kernel⟩
  condition := .textual .like ⟨.text "north", rfl⟩

/-- The document `{"labels": ["north"]}`. -/
def northLabels : Json := .object [("labels", .array [.text "north"])]

/-- A part of an element is part of the text of the array too. -/
theorem compiled_containerEnd_labels :
    let catalog := Catalog.empty.withDocument "metadata" .scalar
    let compiled := compileFrom catalog (.leaf labelsLike) 1
    Agrees (metadataEnv northLabels compiled.arguments) compiled.condition
      ((Predicate.leaf labelsLike).holds (.map [("metadata", .ofJson northLabels)])) := by
  intro catalog compiled
  have hnested : labelsLike.field.nested = ["labels"] := by decide +kernel
  have hroot : labelsLike.field.root = "metadata" := by decide +kernel
  have hcolumn : catalog.columnFor labelsLike.field.root = "metadata" := by decide +kernel
  have hkind : catalog.kind? (catalog.columnFor labelsLike.field.root) = some .scalar := by
    rw [hcolumn]
    decide +kernel
  have hrow : (metadataEnv northLabels compiled.arguments).row
      (catalog.columnFor labelsLike.field.root) = some (.json northLabels) := by
    rw [hcolumn]
    simp [metadataEnv, rowEnv]
  have hargs : (metadataEnv northLabels compiled.arguments).Binds 1 compiled.arguments :=
    rowEnv_binds "metadata" (.json northLabels) compiled.arguments
  have hend : northLabels.follow labelsLike.field.nested = some (.array [.text "north"]) := by
    rw [hnested]
    rfl
  have hcontainer : (Json.array [.text "north"]).IsContainer := by
    intro j hj
    rw [List.mem_singleton.1 hj]
    rfl
  have hbracket : BeginsWithBracket (compactEngine.render (.json (.array [.text "north"]))) :=
    ⟨"\"north\"]".toList, .inl rfl⟩
  have hentity : Carries labelsLike.field.root (some northLabels)
      (.map [("metadata", .ofJson northLabels)]) := by
    rw [hroot]
    exact .inl rfl
  refine (compiled_containerEnd hkind (by decide +kernel) hrow hargs hend hcontainer hbracket
    hentity (by decide)).2.2.2 ?_
  decide +kernel

/-- The leaf `metadata.labels != "none"`. -/
def labelsDiffer : Leaf where
  field := ⟨"metadata.labels", by decide +kernel⟩
  condition := .comparison .ne ⟨.text "none", rfl⟩

/-- The document `{"labels": {}}`. -/
def noLabels : Json := .object [("labels", .object [])]

/-- The database takes a record for a text that differs from any other, the matcher for nothing that
can be compared. -/
theorem record_differs :
    let catalog := Catalog.empty.withDocument "metadata" .scalar
    let compiled := compileFrom catalog (.leaf labelsDiffer) 1
    (Predicate.leaf labelsDiffer).holds (.map [("metadata", .ofJson noLabels)]) = false ∧
      eval (metadataEnv noLabels compiled.arguments) compiled.condition =
        .ok (some (.bool true)) := by
  intro catalog compiled
  refine ⟨by decide +kernel, ?_⟩
  have hshows : Shows (metadataEnv noLabels compiled.arguments) (.column "metadata")
      (some noLabels) := by
    unfold Shows
    simp [eval, metadataEnv, rowEnv]
  have hcondition : compiled.condition =
      .compare .ne (textAt (.column "metadata") ["labels"]) (textParam 1) := by
    decide +kernel
  have hkind : catalog.kind? (catalog.columnFor labelsDiffer.field.root) = some .scalar := by
    decide +kernel
  have hfirst : compiled.arguments[0]? = some (.text "none") := by
    simp only [compiled, compileFrom, arguments, leafArguments_of_kind hkind]
    rfl
  have harg : (metadataEnv noLabels compiled.arguments).argument 1 = some (.text "none") :=
    rowEnv_binds "metadata" (.json noLabels) compiled.arguments 0 _ hfirst
  rw [hcondition]
  exact decides_compare (eval_textAt hshows ["labels"]) (eval_textParam harg) rfl

end Sql
end Sieve
