import Mathlib
import Sieve.Proofs.Sql.ColumnLeaf
import Sieve.Proofs.Sql.Like

/-!
# Sieve.Proofs.Sql.TextualLeaf

Leaves that look for a text. What fits the pattern of an operand, whatever characters are in it, is
what has its text inside, in front or behind; so on columns of texts, and on documents where the
path ends in a text, a truth value, null or nowhere, the compiled condition comes out true exactly
when the matcher says yes: `compiled_textualLeaf_agrees`.
-/

namespace Sieve

namespace TextTest

/-- Where the test wants the second text to stand in the first. -/
def Means (test : TextTest) (s t : String) : Prop :=
  match test with
  | .like => t.toList <:+: s.toList
  | .notLike => ¬ t.toList <:+: s.toList
  | .contains => t.toList <:+: s.toList
  | .startsWith => t.toList <+: s.toList
  | .endsWith => t.toList <:+ s.toList

theorem holds_iff (test : TextTest) (actual expected : Scalar) :
    test.holds actual expected = true ↔ test.Means actual.asText expected.asText := by
  have hcontains : actual.contains expected = true ↔
      expected.asText.toList <:+: actual.asText.toList := by
    rw [Scalar.contains, Text.contains_iff]
    exact exists_congr fun before => exists_congr fun after => eq_comm
  cases test with
  | like => exact hcontains
  | contains => exact hcontains
  | notLike => rw [holds, Means, ← hcontains, Bool.not_eq_true', Bool.not_eq_true]
  | startsWith =>
    rw [holds, Means, Scalar.startsWith, Text.startsWith_iff]
    exact exists_congr fun after => eq_comm
  | endsWith =>
    rw [holds, Means, Scalar.endsWith, Text.endsWith_iff]
    exact exists_congr fun before => eq_comm

end TextTest

namespace Json

/-- A text, a truth value or null. -/
def IsWord : Json → Prop
  | .text _ => True
  | .bool _ => True
  | .null => True
  | _ => False

/-- The path meets no array in the document and ends in a word or nowhere. -/
def EndsInWord (path : List String) (j : Json) : Prop :=
  j.NoArrayOn path ∧ ∀ inner, j.follow path = some inner → inner.IsWord

theorem IsWord.isComposite {j : Json} (h : j.IsWord) : j.isComposite = false := by
  cases j <;> first | rfl | cases h

/-- A word is the same text for the database as for the matcher, and null is none for either. -/
theorem textOfJson_of_isWord (engine : Sql.Engine) {inner : Option Json}
    (h : ∀ j, inner = some j → j.IsWord) :
    inner.bind (Sql.Datum.textOfJson engine) = (inner.bind scalar?).map Scalar.asText := by
  cases inner with
  | none => rfl
  | some j =>
    have hj := h j rfl
    cases j <;> first | rfl | cases hj

end Json

namespace Sql

section Tests

variable {env : Env} {content : Option Json} {path : List String} {first : Nat} {test : TextTest}
  {o : Operand}

theorem like_agrees {e : Expr} {found : Option Scalar}
    (he : eval env e = .ok (found.map fun s => .text s.asText))
    (harg : env.argument first = some (.text (patternOf test o.scalar))) :
    Agrees env (.like (test == .notLike) e (textParam first))
      ((Condition.textual test o).holds (.ofScalar? found)) := by
  refine ⟨_, decides_like he (eval_textParam harg), ?_⟩
  cases found with
  | none => simp [Found.ofScalar?, holds_null, Condition.operator]
  | some s => simp [Found.ofScalar?, holds_scalar, Condition.holdsAt]

theorem agreesAtEnd_textual (htest : test ≠ .contains)
    (hargs : env.Binds first (documentArguments (.textual test o))) :
    AgreesAtEnd env path (.textual test o) first (Json.EndsInWord path) := by
  intro element root content hshows hends
  rw [documentArguments_textual htest] at hargs
  let inner := content.bind (·.follow path)
  have hword : ∀ j, inner = some j → j.IsWord := fun j hj => by
    obtain ⟨outer, houter, hfollow⟩ := Option.bind_eq_some_iff.1 hj
    exact (hends outer houter).2 j hfollow
  have hfound : Entity.findings path (.ofContent content) = [foundAt inner] := by
    cases content with
    | none => exact Entity.findings_null path
    | some j =>
      exact findings_of_atomicEnd (hends j rfl).1 fun j hj => (hword j hj).isComposite
  have htext : eval { env with element } (textAt root path) =
      .ok ((inner.bind Json.scalar?).map fun s => .text s.asText) := by
    rw [eval_textAt hshows path, Json.textOfJson_of_isWord env.engine hword, Option.map_map]
    rfl
  rw [hfound, List.any_cons, List.any_nil, Bool.or_false, documentTest_textual htest]
  exact like_agrees htext (Env.binds_cons.1 hargs).1

theorem columnTest_agrees_textual {column : String} {content : Option String}
    (hrow : env.row column = content.map .text)
    (hargs : env.Binds first (columnArguments (.textual test o))) :
    Agrees env (columnTest column (.textual test o) first)
      ((Condition.textual test o).holds (.ofScalar? (content.map .text))) := by
  have htext : eval env (.cast (.column column) .text) =
      .ok ((content.map Scalar.text).map fun s => .text s.asText) := by
    have hcolumn : eval env (.column column) = .ok (content.map .text) := by rw [eval, hrow]
    rw [eval_cast hcolumn]
    cases content <;> rfl
  rw [columnTest_textual]
  exact like_agrees htext (Env.binds_cons.1 hargs).1

/-- A textual condition is satisfied by scalars alone. -/
theorem any_textual_iff {findings : List Found} :
    findings.any (Condition.textual test o).holds = true ↔
      ∃ s, .scalar s ∈ findings ∧ test.Means s.asText o.scalar.asText := by
  rw [List.any_eq_true]
  constructor
  · rintro ⟨found, hfound, hholds⟩
    cases found with
    | scalar s => exact ⟨s, hfound, (test.holds_iff s o.scalar).1 hholds⟩
    | null => cases hholds
    | composite => cases hholds
  · rintro ⟨s, hs, hmeans⟩
    exact ⟨_, hs, (test.holds_iff s o.scalar).2 hmeans⟩

end Tests

section Leaf

variable (env : Env) (catalog : Catalog) (l : Leaf) (e : Entity)

/-- A plain column holds a text or NULL, and the path of the leaf finds the same in an entity. -/
structure ShowsText (content : Option String) : Prop where
  plain : (targetOf catalog l).kind = none
  row : env.row (targetOf catalog l).column = content.map .text
  same : e.findings l.field.segments = [.ofScalar? (content.map .text)]

/-- A column holds a document, or NULL, where the path in it ends in a word or nowhere, and the path
of the leaf finds the same in an entity. -/
structure ShowsWord (kind : DocumentKind) (content : Option Json) : Prop where
  document : (targetOf catalog l).kind = some kind
  row : env.row (targetOf catalog l).column = content.map .json
  ends : ∀ j, content = some j → Admits (Json.EndsInWord (targetOf catalog l).path) kind j
  same : e.findings l.field.segments =
    Entity.findings (targetOf catalog l).path (.ofContent content)

end Leaf

/-- A text fits the pattern of an operand exactly if it has the text of the operand where the test
wants it. So the compiled condition of a textual leaf comes out true exactly when something with
such a text is found, on a column of texts as well as at the end of a path in a document; where only
null is found, it does not, be the test negated or not. -/
theorem compiled_textualLeaf_agrees :
    (∀ (test : TextTest) (v : Scalar) (s : String), ∃ b,
      likeTruth (test == .notLike) s (patternOf test v) = .ok (some b) ∧
        (b = true ↔ test.Means s v.asText)) ∧
    ∀ (env : Env) (catalog : Catalog) (l : Leaf) (test : TextTest) (o : Operand) (first : Nat)
      (e : Entity), l.condition = .textual test o →
      env.Binds first (compileFrom catalog (.leaf l) first).arguments →
      (∃ content, ShowsText env catalog l e content) ∨
        test ≠ .contains ∧ (∃ kind content, ShowsWord env catalog l e kind content) →
      Agrees env (compileFrom catalog (.leaf l) first).condition ((Predicate.leaf l).holds e) ∧
        ((Predicate.leaf l).holds e = true ↔
          ∃ s, .scalar s ∈ e.findings l.field.segments ∧ test.Means s.asText o.scalar.asText) ∧
        ((∀ found ∈ e.findings l.field.segments, found = .null) →
          (Predicate.leaf l).holds e = false) := by
  refine ⟨fun test v s => ?_, fun env catalog l test o first e hcondition hargs hshows => ?_⟩
  · exact ⟨_, likeTruth_patternOf test (.text s) v, test.holds_iff (.text s) v⟩
  have hleaf : env.Binds first (leafArguments catalog l) := by
    simpa only [compileFrom, arguments] using hargs
  have hholds : (Predicate.leaf l).holds e =
      (e.findings l.field.segments).any (Condition.textual test o).holds := by
    rw [Predicate.holds, Leaf.holds, hcondition]
  rw [hholds]
  refine ⟨?_, any_textual_iff, fun hnull => ?_⟩
  · simp only [compileFrom, Sql.test]
    rcases hshows with ⟨content, h⟩ | ⟨htest, kind, content, h⟩
    · rw [leafArguments, h.plain, hcondition] at hleaf
      simp only [leafTest, h.plain, h.same, hcondition, List.any_cons, List.any_nil, Bool.or_false]
      exact columnTest_agrees_textual h.row hleaf
    · rw [leafArguments, h.document, hcondition] at hleaf
      have hshown : Shows env (.column (targetOf catalog l).column) content := by
        rw [Shows, eval, h.row]
      have hend : AgreesAtEnd env (targetOf catalog l).path (.textual test o) first
          (Json.EndsInWord (targetOf catalog l).path) := agreesAtEnd_textual htest hleaf
      rw [← hcondition] at hend ⊢
      rw [h.same]
      exact hend.leafTest h.document hshown h.ends
  · refine Bool.eq_false_iff.2 fun hholds => ?_
    obtain ⟨s, hs, -⟩ := any_textual_iff.1 hholds
    cases hnull _ hs

/-- The leaf `Note NOT_LIKE "50%"`. -/
def noteUnlike : Leaf where
  field := ⟨"Note", by decide +kernel⟩
  condition := .textual .notLike ⟨.text "50%", rfl⟩

/-- The leaf `metadata.Share ENDS_WITH "_\\"`. -/
def shareEnds : Leaf where
  field := ⟨"metadata.Share", by decide +kernel⟩
  condition := .textual .endsWith ⟨.text "_\\", rfl⟩

/-- The characters of patterns stand for themselves in a column, and at the end of a path whose
letters are lowered in the document. -/
theorem compiled_textualLeaf_agrees_marks :
    let catalog := Catalog.empty.withDocument "metadata" .scalar
    let noted := compileFrom catalog (.leaf noteUnlike) 1
    let shared := compileFrom catalog (.leaf shareEnds) 1
    let document := Json.object [("share", .text "a_\\")]
    Agrees (rowEnv "note" (.text "500") noted.arguments) noted.condition
        ((Predicate.leaf noteUnlike).holds (.map [("Note", .leaf (.text "500"))])) ∧
      Agrees (rowEnv "metadata" (.json document) shared.arguments) shared.condition
        ((Predicate.leaf shareEnds).holds
          (.map [("metadata", .map [("Share", .leaf (.text "a_\\"))])])) := by
  intro catalog noted shared document
  constructor
  · refine (compiled_textualLeaf_agrees.2 _ catalog noteUnlike .notLike _ 1 _ rfl
      (rowEnv_binds _ _ _) (.inl ⟨some "500", ?_, ?_, ?_⟩)).1
    · decide +kernel
    · have hcolumn : (targetOf catalog noteUnlike).column = "note" := by decide +kernel
      simp [hcolumn, rowEnv]
    · have hsegments : noteUnlike.field.segments = ["Note"] := by decide +kernel
      rw [hsegments, Entity.findings_entry]
      simp [Entity.findings, Entity.resolve, Entity.itemFindings, Found.ofScalar?]
  · have htarget : (targetOf catalog shareEnds).column = "metadata" ∧
        (targetOf catalog shareEnds).path = ["share"] := by decide +kernel
    refine (compiled_textualLeaf_agrees.2 _ catalog shareEnds .endsWith _ 1 _ rfl
      (rowEnv_binds _ _ _) (.inr ⟨by decide, .scalar, some document, ?_, ?_, ?_, ?_⟩)).1
    · decide +kernel
    · simp [htarget.1, rowEnv]
    · rintro j ⟨⟩
      rw [htarget.2]
      simp [Admits, Json.EndsInWord, document, Json.NoArrayOn, Json.follow, Json.member?,
        Entries.get?, Json.IsWord]
    · have hsegments : shareEnds.field.segments = ["metadata", "Share"] := by decide +kernel
      have hdocument : Entity.ofContent (some document) =
          .map [("share", .leaf (.text "a_\\"))] := by rfl
      rw [hsegments, htarget.2, hdocument, Entity.findings_entry, Entity.findings_entry,
        Entity.findings_entry]

end Sql
end Sieve
