import Sieve.Matching
import Sieve.Proofs.Predicate.RoundTrip
import Sieve.Proofs.Predicate.Wire
import Sieve.Sql.Compile

/-!
# Sieve.Proofs.Predicate.Transparency

A predicate that comes back from one of its written forms may have other kinds of integers, and the
form of an expression has no compounds of less than two children. None of that is seen from outside:
the predicate compiles to the same condition with the same arguments, and the same entities satisfy
it.

* `Leaf.indistinct_canonical`: the kinds of integers are not seen in a leaf.
* `indistinct_collapseBy`: nor are collapsed compounds, by induction on the predicate.
* `ComesBack.indistinct`: so a predicate that comes back is not told from the one that was written.
-/

namespace Sieve

namespace Scalar

/-- A scalar is canonical, or it is an unsigned integer that becomes a signed one. -/
theorem canonical_cases (s : Scalar) : s.canonical = s ∨
    ∃ n : UInt64, n.toNat < 2 ^ 63 ∧ s = .uint n ∧ s.canonical = .int (Int64.ofNat n.toNat) := by
  cases s with
  | uint n =>
    by_cases hn : n.toNat < 2 ^ 63
    · exact .inr ⟨n, hn, rfl, if_pos hn⟩
    · exact .inl (if_neg hn)
  | _ => exact .inl rfl

theorem isNumeric_canonical (s : Scalar) : s.canonical.isNumeric = s.isNumeric := by
  rcases s.canonical_cases with h | ⟨n, hn, rfl, h⟩
  · rw [h]
  · rw [h, isNumeric, isNumeric]

theorem number?_canonical (s : Scalar) : s.canonical.number? = s.number? := by
  rcases s.canonical_cases with h | ⟨n, hn, rfl, h⟩
  · rw [h]
  · rw [h, number?, number?, Int64.toInt_ofNat_of_lt hn]

theorem asText_canonical (s : Scalar) : s.canonical.asText = s.asText := by
  rcases s.canonical_cases with h | ⟨n, hn, rfl, h⟩
  · rw [h]
  · simp only [h, asText, display, Int64.toInt_ofNat_of_lt hn]

theorem toJson_canonical (s : Scalar) : s.canonical.toJson = s.toJson := by
  rcases s.canonical_cases with h | ⟨n, hn, rfl, h⟩
  · rw [h]
  · simp only [h, toJson, Integer64.ofInt64, Integer64.ofUInt64, Int64.toInt_ofNat_of_lt hn]

theorem ofScalar_canonical (s : Scalar) :
    Sql.Argument.ofScalar s.canonical = Sql.Argument.ofScalar s := by
  rcases s.canonical_cases with h | ⟨n, hn, rfl, h⟩
  · rw [h]
  · rw [h, Sql.Argument.ofScalar, Sql.Argument.ofScalar, if_pos hn]

theorem equal_canonical (a s : Scalar) : a.equal s.canonical = a.equal s := by
  have hnumber := s.number?_canonical
  rcases s.canonical_cases with h | ⟨n, -, rfl, h⟩
  · rw [h]
  · rw [h] at hnumber ⊢
    cases a <;> simp only [equal, hnumber]

theorem canonical_equal (s a : Scalar) : s.canonical.equal a = s.equal a := by
  have hnumber := s.number?_canonical
  rcases s.canonical_cases with h | ⟨n, -, rfl, h⟩
  · rw [h]
  · rw [h] at hnumber ⊢
    cases a <;> simp only [equal, hnumber]

theorem compare?_canonical (a s : Scalar) : a.compare? s.canonical = a.compare? s := by
  simp only [compare?, number?_canonical, asText_canonical]

end Scalar

namespace TextTest

theorem holds_canonical (test : TextTest) (a s : Scalar) :
    test.holds a s.canonical = test.holds a s := by
  cases test <;>
    simp only [holds, Scalar.contains, Scalar.startsWith, Scalar.endsWith, Scalar.asText_canonical]

end TextTest

namespace Sql

theorem patternOf_canonical (test : TextTest) (s : Scalar) :
    patternOf test s.canonical = patternOf test s := by
  simp only [patternOf, Scalar.asText_canonical]

theorem documentArgument_canonical (s : Scalar) :
    documentArgument s.canonical = documentArgument s := by
  rw [documentArgument, documentArgument, Scalar.isNumeric_canonical, Scalar.ofScalar_canonical,
    Scalar.asText_canonical]

theorem numericItems_canonical (items : List Operand) :
    numericItems (items.map Operand.canonical) = (numericItems items).map Operand.canonical := by
  have hsame : (fun o : Operand => o.canonical.scalar.isNumeric) = fun o => o.scalar.isNumeric :=
    funext fun o => o.scalar.isNumeric_canonical
  rw [numericItems, List.filter_map]
  exact congrArg (fun p => (items.filter p).map Operand.canonical) hsame

theorem otherItems_canonical (items : List Operand) :
    otherItems (items.map Operand.canonical) = (otherItems items).map Operand.canonical := by
  have hsame : (fun o : Operand => !o.canonical.scalar.isNumeric) =
      fun o => !o.scalar.isNumeric :=
    funext fun o => congrArg not o.scalar.isNumeric_canonical
  rw [otherItems, List.filter_map]
  exact congrArg (fun p => (items.filter p).map Operand.canonical) hsame

section Condition

variable (c : Condition)

theorem columnArguments_canonical : columnArguments c.canonical = columnArguments c := by
  cases c with
  | comparison op o => simp only [Condition.canonical, columnArguments, Operand.canonical,
      Scalar.ofScalar_canonical]
  | membership negated items => simp only [Condition.canonical, columnArguments, List.map_map,
      Function.comp_def, Operand.canonical, Scalar.ofScalar_canonical]
  | textual test o => simp only [Condition.canonical, columnArguments, Operand.canonical,
      patternOf_canonical]
  | nullness negated => rfl

theorem documentArguments_canonical : documentArguments c.canonical = documentArguments c := by
  cases c with
  | comparison op o => simp only [Condition.canonical, documentArguments, Operand.canonical,
      documentArgument_canonical]
  | membership negated items =>
    simp only [Condition.canonical, documentArguments, numericItems_canonical,
      otherItems_canonical, ← List.map_append, List.map_map, Function.comp_def, Operand.canonical,
      documentArgument_canonical]
  | textual test o =>
    cases test <;> simp only [Condition.canonical, documentArguments, Operand.canonical,
      patternOf_canonical, Scalar.toJson_canonical]
  | nullness negated => rfl

theorem columnTest_canonical (column : String) (first : Nat) :
    columnTest column c.canonical first = columnTest column c first := by
  cases c with
  | membership negated items =>
    cases items with
    | nil => rfl
    | cons o items => cases negated <;> simp [Condition.canonical, columnTest]
  | textual test o => cases test <;> rfl
  | _ => rfl

theorem documentTest_canonical (root : Expr) (path : List String) (first : Nat) :
    documentTest root path c.canonical first = documentTest root path c first := by
  cases c with
  | comparison op o =>
    simp only [Condition.canonical, documentTest, Operand.canonical, Scalar.isNumeric_canonical]
  | membership negated items =>
    simp only [Condition.canonical, documentTest, numericItems_canonical, otherItems_canonical,
      List.length_map]
  | textual test o => cases test <;> rfl
  | nullness negated => rfl

theorem arrayTest_canonical (column : Expr) (path : List String) (first : Nat) :
    arrayTest column path c.canonical first = arrayTest column path c first := by
  have htest := documentTest_canonical c .element path first
  unfold arrayTest
  rw [htest]
  cases c <;> rfl

end Condition

end Sql

namespace Condition

theorem holdsAt_canonical (c : Condition) (s : Scalar) : c.canonical.holdsAt s = c.holdsAt s := by
  cases c with
  | comparison op o => simp only [canonical, holdsAt, Operand.canonical, Scalar.equal_canonical,
      Scalar.compare?_canonical]
  | membership negated items => simp only [canonical, holdsAt, List.any_map, Function.comp_def,
      Operand.canonical, Scalar.canonical_equal]
  | textual test o => simp only [canonical, holdsAt, Operand.canonical, TextTest.holds_canonical]
  | nullness negated => rfl

theorem holds_canonical (c : Condition) (f : Found) : c.canonical.holds f = c.holds f := by
  cases f with
  | null => rw [holds, holds, operator_canonical]
  | scalar s => exact c.holdsAt_canonical s
  | composite => rw [holds, holds, operator_canonical]

end Condition

/-! ## Leaves -/

/-- Leaves that are not told apart by their SQL or their matches. -/
structure Leaf.Indistinct (a b : Leaf) : Prop where
  arguments : ∀ catalog, Sql.leafArguments catalog a = Sql.leafArguments catalog b
  test : ∀ catalog first, Sql.leafTest catalog a first = Sql.leafTest catalog b first
  holds : ∀ e, a.holds e = b.holds e

theorem Leaf.Indistinct.refl (l : Leaf) : l.Indistinct l :=
  ⟨fun _ => rfl, fun _ _ => rfl, fun _ => rfl⟩

theorem Leaf.condition_canonical (l : Leaf) : l.canonical.condition = l.condition.canonical := rfl

/-- A leaf means the same column and path as its canonical form. -/
theorem Sql.targetOf_canonical (catalog : Catalog) (l : Leaf) :
    targetOf catalog l.canonical = targetOf catalog l := rfl

theorem Leaf.indistinct_canonical (l : Leaf) : l.canonical.Indistinct l where
  arguments catalog := by
    simp only [Sql.leafArguments, Sql.targetOf_canonical, condition_canonical,
      Sql.columnArguments_canonical, Sql.documentArguments_canonical]
  test catalog first := by
    simp only [Sql.leafTest, Sql.targetOf_canonical, condition_canonical,
      Sql.columnTest_canonical, Sql.documentTest_canonical, Sql.arrayTest_canonical]
  holds e := by
    have hfield : l.canonical.field = l.field := rfl
    have hholds : l.canonical.condition.holds = l.condition.holds :=
      funext l.condition.holds_canonical
    rw [Leaf.holds, Leaf.holds, hfield, hholds]

/-! ## Predicates -/

namespace Predicate

/-- Predicates that are not told apart by their SQL or their matches. -/
structure Indistinct (p q : Predicate) : Prop where
  compiled : ∀ catalog first, Sql.compileFrom catalog p first = Sql.compileFrom catalog q first
  holds : ∀ e, p.holds e = q.holds e

section Indistinct

variable {p q r : Predicate}

theorem Indistinct.symm (h : p.Indistinct q) : q.Indistinct p where
  compiled catalog first := (h.compiled catalog first).symm
  holds e := (h.holds e).symm

theorem Indistinct.trans (h : p.Indistinct q) (h' : q.Indistinct r) : p.Indistinct r where
  compiled catalog first := (h.compiled catalog first).trans (h'.compiled catalog first)
  holds e := (h.holds e).trans (h'.holds e)

end Indistinct

section Collapse

variable {change : Leaf → Leaf}

mutual

theorem arguments_collapseBy (h : ∀ l, (change l).Indistinct l)
    (catalog : Sql.Catalog) : ∀ p : Predicate,
    Sql.arguments catalog (p.collapseBy change) = Sql.arguments catalog p
  | .matchAll => by rw [collapseBy]
  | .leaf l => by
    rw [collapseBy, Sql.arguments, Sql.arguments]
    exact (h l).arguments catalog
  | .compound _ [] => by rw [collapseBy, Sql.arguments, Sql.arguments, Sql.argumentsOf]
  | .compound _ [p] => by
    rw [collapseBy, arguments_collapseBy h catalog p, Sql.arguments, Sql.argumentsOf,
      Sql.argumentsOf, List.append_nil]
  | .compound c (p :: q :: ps) => by
    rw [collapseBy, Sql.arguments, Sql.arguments]
    simp only [Sql.argumentsOf, arguments_collapseBy h catalog p, arguments_collapseBy h catalog q,
      argumentsOf_collapseAllBy h catalog ps]

theorem argumentsOf_collapseAllBy (h : ∀ l, (change l).Indistinct l)
    (catalog : Sql.Catalog) : ∀ ps : List Predicate,
    Sql.argumentsOf catalog (collapseAllBy change ps) = Sql.argumentsOf catalog ps
  | [] => by rw [collapseAllBy]
  | p :: ps => by
    rw [collapseAllBy, Sql.argumentsOf, Sql.argumentsOf, arguments_collapseBy h catalog p,
      argumentsOf_collapseAllBy h catalog ps]

end

mutual

/-- The placeholders of later children are numbered alike, since earlier ones bind as much. -/
theorem test_collapseBy (h : ∀ l, (change l).Indistinct l)
    (catalog : Sql.Catalog) : ∀ (p : Predicate) (first : Nat),
    Sql.test catalog first (p.collapseBy change) = Sql.test catalog first p
  | .matchAll, first => by rw [collapseBy]
  | .leaf l, first => by
    rw [collapseBy, Sql.test, Sql.test]
    exact (h l).test catalog first
  | .compound _ [], first => by rw [collapseBy, Sql.test, Sql.test]
  | .compound _ [p], first => by rw [collapseBy, test_collapseBy h catalog p first, Sql.test]
  | .compound c (p :: q :: ps), first => by
    rw [collapseBy]
    simp only [Sql.test, Sql.testAfter, arguments_collapseBy h catalog p,
      arguments_collapseBy h catalog q, test_collapseBy h catalog p, test_collapseBy h catalog q,
      testAfter_collapseAllBy h catalog c ps]

theorem testAfter_collapseAllBy (h : ∀ l, (change l).Indistinct l) (catalog : Sql.Catalog)
    (c : Conjunction) :
    ∀ (ps : List Predicate) (before : Sql.Expr) (first : Nat),
    Sql.testAfter catalog c before first (collapseAllBy change ps) =
      Sql.testAfter catalog c before first ps
  | [], before, first => by rw [collapseAllBy]
  | p :: ps, before, first => by
    rw [collapseAllBy, Sql.testAfter, Sql.testAfter, arguments_collapseBy h catalog p,
      test_collapseBy h catalog p, testAfter_collapseAllBy h catalog c ps]

end

mutual

theorem holds_collapseBy (h : ∀ l, (change l).Indistinct l) (e : Entity) :
    ∀ p : Predicate, (p.collapseBy change).holds e = p.holds e
  | .matchAll => by rw [collapseBy]
  | .leaf l => by
    rw [collapseBy, holds, holds]
    exact (h l).holds e
  | .compound _ [] => by rw [collapseBy, holds, holds]
  | .compound .and [p] => by
    rw [collapseBy, holds_collapseBy h e p, holds, holdsAll, Bool.and_true]
  | .compound .or [p] => by
    rw [collapseBy, holds_collapseBy h e p, holds, holdsAny, Bool.or_false]
  | .compound .and (p :: q :: ps) => by
    rw [collapseBy]
    simp only [holds, holdsAll, holds_collapseBy h e p, holds_collapseBy h e q,
      holdsAll_collapseAllBy h e ps]
  | .compound .or (p :: q :: ps) => by
    rw [collapseBy]
    simp only [holds, holdsAny, holds_collapseBy h e p, holds_collapseBy h e q,
      holdsAny_collapseAllBy h e ps]

theorem holdsAll_collapseAllBy (h : ∀ l, (change l).Indistinct l)
    (e : Entity) : ∀ ps : List Predicate,
    holdsAll e (collapseAllBy change ps) = holdsAll e ps
  | [] => by rw [collapseAllBy]
  | p :: ps => by
    rw [collapseAllBy, holdsAll, holdsAll, holds_collapseBy h e p, holdsAll_collapseAllBy h e ps]

theorem holdsAny_collapseAllBy (h : ∀ l, (change l).Indistinct l)
    (e : Entity) : ∀ ps : List Predicate,
    holdsAny e (collapseAllBy change ps) = holdsAny e ps
  | [] => by rw [collapseAllBy]
  | p :: ps => by
    rw [collapseAllBy, holdsAny, holdsAny, holds_collapseBy h e p, holdsAny_collapseAllBy h e ps]

end

/-- Collapsing is not seen, nor are changes of the leaves that are not seen in the leaves. -/
theorem indistinct_collapseBy (h : ∀ l, (change l).Indistinct l) (p : Predicate) :
    (p.collapseBy change).Indistinct p where
  compiled catalog first := by
    rw [Sql.compileFrom, Sql.compileFrom, test_collapseBy h catalog p first,
      arguments_collapseBy h catalog p]
  holds e := holds_collapseBy h e p

end Collapse

mutual

/-- A predicate in canonical form collapses to what it collapses to at once. -/
theorem collapse_canonical : ∀ p : Predicate, p.canonical.collapse = p.collapseBy Leaf.canonical
  | .matchAll => by rw [canonical, collapse, collapseBy, collapseBy]
  | .leaf l => by
    rw [canonical, collapse, collapseBy, collapseBy]
    rfl
  | .compound _ [] => by rw [canonical, canonicalAll, collapse, collapseBy, collapseBy]
  | .compound _ [p] => by
    rw [canonical, canonicalAll, canonicalAll, collapse, collapseBy, collapseBy]
    exact collapse_canonical p
  | .compound c (p :: q :: ps) => by
    rw [canonical, canonicalAll, canonicalAll, collapse, collapseBy, collapseBy,
      ← collapse_canonical p, ← collapse_canonical q, ← collapseAll_canonicalAll ps]
    rfl

theorem collapseAll_canonicalAll : ∀ ps : List Predicate,
    collapseAllBy id (canonicalAll ps) = collapseAllBy Leaf.canonical ps
  | [] => by rw [canonicalAll, collapseAllBy, collapseAllBy]
  | p :: ps => by
    rw [canonicalAll, collapseAllBy, collapseAllBy, ← collapse_canonical p,
      collapseAll_canonicalAll ps]
    rfl

end

theorem indistinct_canonical (p : Predicate) : p.canonical.Indistinct p := by
  have hcollapsed : p.canonical.collapse.Indistinct p.canonical :=
    indistinct_collapseBy Leaf.Indistinct.refl p.canonical
  have hwritten : p.canonical.collapse.Indistinct p := by
    rw [collapse_canonical]
    exact indistinct_collapseBy Leaf.indistinct_canonical p
  exact hcollapsed.symm.trans hwritten

/-! ## Written forms -/

/-- A predicate comes back as another one from what is written for it: from its document, from the
text of the document, whether or not the text is judged as a whole first, or from its expression.
The text has to keep its numbers, the expression its paths. -/
inductive ComesBack (p q : Predicate) : Prop where
  | document (read : ofJson p.toJson = .ok q)
  | json (numbers : NumbersReadBack p) (read : readJson p.toJson.compact = .ok q)
  | leadingJson (numbers : NumbersReadBack p) (read : readLeadingJson p.toJson.compact = .ok q)
  | expression (paths : ∀ l ∈ p.leaves, Expression.InGrammar l.field.text)
    (read : parse p.text = .ok q)

/-- Judging the document before the rest of the text accepts no other texts. -/
theorem readJson_of_readLeadingJson {s : String} {q : Predicate}
    (h : readLeadingJson s = .ok q) : readJson s = .ok q := by
  rw [readLeadingJson] at h
  rw [readJson, Json.read?, Json.readWithin?]
  cases hfirst : Json.readFirst? Json.depthLimit s with
  | none =>
    rw [hfirst] at h
    cases h
  | some found =>
    obtain ⟨j, rest⟩ := found
    rw [hfirst] at h
    cases rest with
    | nil =>
      cases hj : ofJson j with
      | error e => simp [hj] at h
      | ok p => simpa [hj] using h
    | cons c rest =>
      cases hj : ofJson j with
      | error e => simp [hj] at h
      | ok p => simp [hj] at h

theorem eq_canonical_of_ofJson {p q : Predicate} (h : ofJson p.toJson = .ok q) :
    q = p.canonical := by
  rw [ofJson_toJson] at h
  exact (Except.ok.inj h).symm

theorem eq_canonical_of_readJson {p q : Predicate} (hnumbers : NumbersReadBack p)
    (h : readJson p.toJson.compact = .ok q) : q = p.canonical := by
  rw [readJson, Json.read?_compact (readable_toJson p hnumbers)] at h
  split at h
  · next j hj =>
    split at hj
    · cases hj
      exact eq_canonical_of_ofJson h
    · cases hj
  · cases h

/-- What comes back is the predicate in canonical form, collapsed if it was an expression. -/
theorem ComesBack.cases_on {p q : Predicate} (h : p.ComesBack q) :
    q = p.canonical ∨ q = p.collapseBy Leaf.canonical := by
  cases h with
  | document hread => exact .inl (eq_canonical_of_ofJson hread)
  | json hnumbers hread => exact .inl (eq_canonical_of_readJson hnumbers hread)
  | leadingJson hnumbers hread =>
    exact .inl (eq_canonical_of_readJson hnumbers (readJson_of_readLeadingJson hread))
  | expression hpaths hread =>
    rw [parse_text hpaths] at hread
    exact .inr (Except.ok.inj hread).symm

/-- A predicate that comes back from a written form compiles to the same condition with the same
arguments, whatever the catalog and the first placeholder, and the same entities satisfy it. -/
theorem ComesBack.indistinct {p q : Predicate} (h : p.ComesBack q) :
    (∀ (catalog : Sql.Catalog) (first : Nat), 1 ≤ first →
      ∃ c, Sql.compileFrom? catalog p first = .ok c ∧ Sql.compileFrom? catalog q first = .ok c) ∧
    ∀ e, q.holds e = p.holds e := by
  have hsame : q.Indistinct p := by
    rcases h.cases_on with rfl | rfl
    · exact indistinct_canonical p
    · exact indistinct_collapseBy Leaf.indistinct_canonical p
  refine ⟨?_, hsame.holds⟩
  intro catalog first hfirst
  have hne : first ≠ 0 := by omega
  refine ⟨Sql.compileFrom catalog p first, if_neg hne, ?_⟩
  rw [← hsame.compiled catalog first]
  exact if_neg hne

/-- The predicate `((site IN (7, "core")) AND *)`, the number of its list being unsigned. -/
def nestedSite : Predicate :=
  .compound .and [.compound .or [.leaf siteAmong], .compound .or []]

/-- It comes back with a signed number and without the inner compounds. -/
theorem ComesBack.indistinct_site :
    let q := Predicate.compound .and [.leaf siteAmong.canonical, .matchAll]
    let catalog := Sql.Catalog.empty.withDocument "site" .unknown
    nestedSite.ComesBack q ∧ q ≠ nestedSite ∧ 1 ≤ 3 ∧
      (∃ c, Sql.compileFrom? catalog nestedSite 3 = .ok c ∧ Sql.compileFrom? catalog q 3 = .ok c) ∧
      ∀ e, q.holds e = nestedSite.holds e := by
  intro q catalog
  have hchars : siteAmong.field.text.toList = ['s', 'i', 't', 'e'] := rfl
  have hsite : Expression.InGrammar siteAmong.field.text := by
    rw [Expression.InGrammar, hchars]
    refine ⟨List.all_eq_true.1 (by decide), ?_⟩
    rintro c ⟨⟩
    decide
  have hpaths : ∀ l ∈ nestedSite.leaves, Expression.InGrammar l.field.text := by
    intro l hl
    simp only [nestedSite, leaves, leavesOf, List.append_nil, List.mem_singleton] at hl
    rw [hl]
    exact hsite
  have hread : parse nestedSite.text = .ok q := by
    rw [parse_text hpaths]
    simp only [nestedSite, collapseBy, collapseAllBy, q]
  have hback : nestedSite.ComesBack q := .expression hpaths hread
  have hne : q ≠ nestedSite := by
    intro heq
    simp [q, nestedSite] at heq
  have hsame := hback.indistinct
  exact ⟨hback, hne, by decide, hsame.1 catalog 3 (by decide), hsame.2⟩

end Predicate
end Sieve
