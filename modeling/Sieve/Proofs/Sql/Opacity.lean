import Sieve.Proofs.Sql.Correspondence
import Sieve.Proofs.Sql.Numbering

/-!
# Sieve.Proofs.Sql.Opacity

What the text of a compiled predicate tells of the values in it. Of a value that is compared with a
plain column it tells nothing, and of a list how long it is; of a value that is compared with a
document it tells whether it is a number, and of a list how many of its items are and are not.

* `test_alike`: predicates whose values agree in that have the same condition.
* `sql_of_alike`: so they have the same text.
-/

namespace Sieve
namespace Sql

/-- Values that look alike in the text of a leaf, on a document or on a plain column. -/
def ValuesAgree (document : Bool) : Value → Value → Prop
  | .scalar s, .scalar t => document = true → s.isNumeric = t.isNumeric
  | .list us, .list vs =>
    if document = true then
      us.countP Value.isNumeric = vs.countP Value.isNumeric ∧
        (us.countP fun v => !v.isNumeric) = vs.countP fun v => !v.isNumeric
    else us.length = vs.length
  | _, _ => True

/-- A leaf looks at a document. -/
def onDocument (catalog : Catalog) (l : Leaf) : Bool := (targetOf catalog l).kind.isSome

/-- Leaves with the same field and operator whose values agree. -/
structure LeafAlike (catalog : Catalog) (a b : Leaf) : Prop where
  field : a.field = b.field
  operator : a.condition.operator = b.condition.operator
  values : ValuesAgree (onDocument catalog a) a.condition.value b.condition.value

/-- Predicates of one shape, with the same fields and operators, whose values agree. -/
def Alike (catalog : Catalog) : Predicate → Predicate → Prop :=
  Predicate.Corresponds (LeafAlike catalog)

section Conditions

variable {a b : Condition}

theorem length_numericItems (items : List Operand) :
    (numericItems items).length =
      (items.map fun o => Value.scalar o.scalar).countP Value.isNumeric := by
  rw [numericItems, ← List.countP_eq_length_filter, List.countP_map]
  rfl

theorem length_otherItems (items : List Operand) :
    (otherItems items).length =
      (items.map fun o => Value.scalar o.scalar).countP fun v => !v.isNumeric := by
  rw [otherItems, ← List.countP_eq_length_filter, List.countP_map]
  rfl

/-- The condition of a plain column and the number of its arguments. -/
theorem columnTest_agree (hop : a.operator = b.operator)
    (hvalue : ValuesAgree false a.value b.value) (column : String) (first : Nat) :
    columnTest column a first = columnTest column b first ∧
      (columnArguments a).length = (columnArguments b).length := by
  cases a <;> cases b <;> simp only [Condition.operator, reduceCtorEq] at hop
  case comparison op o op' o' =>
    cases hop
    simp [columnTest, columnArguments]
  case membership negated items negated' items' =>
    cases hop
    have hlength : items.length = items'.length := by
      simpa [ValuesAgree, Condition.value] using hvalue
    refine ⟨?_, by simpa [columnArguments] using hlength⟩
    cases items with
    | nil =>
      rw [List.length_nil, eq_comm, List.length_eq_zero_iff] at hlength
      rw [hlength]
    | cons o items =>
      cases items' with
      | nil => cases hlength
      | cons o' items' => cases negated <;> simp only [columnTest, hlength]
  case textual test o test' o' =>
    cases hop
    cases test <;> simp [columnTest, columnArguments]
  case nullness negated negated' =>
    cases hop
    exact ⟨rfl, rfl⟩

/-- The condition of a document and the number of its arguments. -/
theorem documentTest_agree (hop : a.operator = b.operator)
    (hvalue : ValuesAgree true a.value b.value) (root : Expr) (path : List String) (first : Nat) :
    documentTest root path a first = documentTest root path b first ∧
      (documentArguments a).length = (documentArguments b).length := by
  cases a <;> cases b <;> simp only [Condition.operator, reduceCtorEq] at hop
  case comparison op o op' o' =>
    cases hop
    have hnumeric : o.scalar.isNumeric = o'.scalar.isNumeric := hvalue rfl
    exact ⟨by rw [documentTest, documentTest, hnumeric], by simp [documentArguments]⟩
  case membership negated items negated' items' =>
    cases hop
    simp only [ValuesAgree, Condition.value, if_true, ← length_numericItems,
      ← length_otherItems] at hvalue
    obtain ⟨hnumeric, hother⟩ := hvalue
    refine ⟨by rw [documentTest, documentTest, hnumeric, hother], ?_⟩
    simp only [documentArguments, List.length_map, List.length_append, hnumeric, hother]
  case textual test o test' o' =>
    cases hop
    cases test <;> simp [documentTest, documentArguments]
  case nullness negated negated' =>
    cases hop
    exact ⟨rfl, rfl⟩

theorem arrayTest_agree (hop : a.operator = b.operator)
    (hvalue : ValuesAgree true a.value b.value) (column : Expr) (path : List String)
    (first : Nat) : arrayTest column path a first = arrayTest column path b first := by
  have htest := (documentTest_agree hop hvalue .element path first).1
  unfold arrayTest
  rw [htest]
  cases a <;> cases b <;> simp only [Condition.operator, reduceCtorEq] at hop <;> cases hop <;> rfl

end Conditions

section Predicates

variable (catalog : Catalog)

theorem leafTest_agree {a b : Leaf} (h : LeafAlike catalog a b) (first : Nat) :
    leafTest catalog a first = leafTest catalog b first ∧
      (leafArguments catalog a).length = (leafArguments catalog b).length := by
  have htarget : targetOf catalog b = targetOf catalog a := by rw [targetOf, targetOf, h.field]
  have hop := h.operator
  have hvalue := h.values
  unfold leafTest leafArguments
  unfold onDocument at hvalue
  cases hkind : (targetOf catalog a).kind with
  | none =>
    rw [hkind] at hvalue
    simpa only [htarget, hkind] using
      columnTest_agree hop hvalue (targetOf catalog a).column first
  | some kind =>
    rw [hkind] at hvalue
    obtain ⟨htest, hlength⟩ := documentTest_agree hop hvalue
      (.column (targetOf catalog a).column) (targetOf catalog a).path first
    have harray := arrayTest_agree hop hvalue (.column (targetOf catalog a).column)
      (targetOf catalog a).path first
    cases kind <;> simp only [htarget, hkind, htest, harray, hlength, and_self]

theorem congruence_id : Congruence (id : Expr → Expr) where
  paren h := congrArg Expr.paren h
  junction c h h' := congrArg₂ (Expr.junction c) h h'

theorem simulates_alike : Simulates catalog catalog (LeafAlike catalog) id where
  arguments h := (leafTest_agree catalog h 0).2
  test h first := (leafTest_agree catalog h first).1

/-- The condition of a predicate does not hang on its values, except for what they agree in. -/
theorem test_alike {p q : Predicate} (first : Nat) (h : Alike catalog p q) :
    test catalog first p = test catalog first q :=
  test_corresponds congruence_id (simulates_alike catalog) first h

end Predicates

/-- Predicates of one shape, with the same fields and operators, compile to the same text if their
values agree in what the text tells of them. -/
theorem sql_of_alike (catalog : Catalog) {p q : Predicate} (h : Alike catalog p q) {first : Nat}
    (hfirst : 1 ≤ first) :
    ∃ c d, compileFrom? catalog p first = .ok c ∧ compileFrom? catalog q first = .ok d ∧
      c.sql = d.sql := by
  have hne : first ≠ 0 := by omega
  refine ⟨compileFrom catalog p first, compileFrom catalog q first, if_neg hne, if_neg hne, ?_⟩
  exact congrArg Expr.text (test_alike catalog first h)

/-- The leaf `labels NOT IN (7, "o'brien")`. -/
def surnamesLeaf : Leaf where
  field := labelsLeaf.field
  condition := .membership true [⟨.int 7, rfl⟩, ⟨.text "o\x27brien", rfl⟩]

/-- The leaf `tier >= "); DROP"`. -/
def dropLeaf : Leaf where
  field := tierLeaf.field
  condition := .comparison .ge ⟨.text "); DROP", rfl⟩

theorem sql_of_alike_labels :
    let catalog := Catalog.empty.withDocument "labels" .unknown
    let p := Predicate.compound .and [.leaf labelsLeaf, .leaf tierLeaf]
    let q := Predicate.compound .and [.leaf surnamesLeaf, .leaf dropLeaf]
    Alike catalog p q ∧ 1 ≤ 3 ∧
      ∃ c d, compileFrom? catalog p 3 = .ok c ∧ compileFrom? catalog q 3 = .ok d ∧
        c.sql = d.sql := by
  intro catalog p q
  have hlabels : onDocument catalog labelsLeaf = true := by decide +kernel
  have htier : onDocument catalog tierLeaf = false := by decide +kernel
  have hfirst : LeafAlike catalog labelsLeaf surnamesLeaf := by
    refine ⟨rfl, rfl, ?_⟩
    rw [hlabels]
    exact ⟨rfl, rfl⟩
  have hsecond : LeafAlike catalog tierLeaf dropLeaf := by
    refine ⟨rfl, rfl, ?_⟩
    rw [htier]
    exact fun h => by cases h
  have halike : Alike catalog p q := .compound (.cons (.leaf hfirst) (.cons (.leaf hsecond) .nil))
  exact ⟨halike, by decide, sql_of_alike catalog halike (by decide)⟩

end Sql
end Sieve
