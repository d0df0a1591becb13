import Mathlib
import Sieve.Proofs.Predicate.Draft
import Sieve.Sql.Compile

/-!
# Sieve.Proofs.Sql.Staging

Compiling in two stages without relying on what a predicate guarantees: first an operand is bound,
in a shape that depends on the operator and the value, then the shape is written as a condition.
Either stage halts on what the other one or the caller should not have given to it.

* `Draft.compileNode` compiles a draft, numbering placeholders as it goes.
* `Staged.Yields`: a computation ends, binds the given arguments and gives the given answer.
* `compileFrom_draft`: the draft of a predicate compiles without halting, and to the condition and
  the arguments of `compileFrom`.
* `Draft.Obtained.compiles`: so does every draft that can be obtained, and it is decided.
-/

namespace Sieve
namespace Sql

/-- What the first stage hands to the second: the numbers of placeholders, by what they are for. -/
inductive Bound where
  | none
  | scalar (index : Nat)
  | numeric (index : Nat)
  | list (indices : List Nat)
  | members (numbers texts : List Nat)
  | pattern (index : Nat)
  | json (index : Nat)

/-- Why compilation halts. -/
inductive Halt where
  | fromZero
  | tooMany
  | listWanted (op : Operator) (v : Value)
  | notComparison (op : Operator)
  | columnOperand (op : Operator) (operand : Bound)
  | documentOperand (op : Operator) (operand : Bound)

/-- The next placeholder and the arguments bound so far. -/
structure Progress where
  next : Nat
  arguments : List Argument

/-- The first number that does not fit a counter of placeholders. -/
def indexLimit : Nat := 2 ^ 64

abbrev Staged := StateT Progress (Except Halt)

namespace Staged

def halt {α : Type} (h : Halt) : Staged α := fun _ => .error h

/-- Binds an argument to the next placeholder. -/
def place (a : Argument) : Staged Nat := fun s =>
  if s.next + 1 < indexLimit then .ok (s.next, ⟨s.next + 1, s.arguments ++ [a]⟩)
  else .error .tooMany

def placeAll : List Argument → Staged (List Nat)
  | [] => pure []
  | a :: as => do
    let index ← place a
    let indices ← placeAll as
    return index :: indices

end Staged

/-! ## The two stages -/

section Stages

/-- The pattern that a textual operator looks for. -/
def likePattern (op : Operator) (v : Value) : String :=
  let escaped := likeEscaped v.asText
  match op with
  | .textual .startsWith => escaped ++ "%"
  | .textual .endsWith => "%" ++ escaped
  | _ => "%" ++ escaped ++ "%"

def listItems (op : Operator) : Value → Staged (List Value)
  | .list items => pure items
  | v => .halt (.listWanted op v)

def bindColumnOperand (op : Operator) (v : Value) : Staged Bound :=
  match op with
  | .nullness _ => pure .none
  | .membership _ => do
    let items ← listItems op v
    let indices ← .placeAll (items.map .ofValue)
    return .list indices
  | .textual _ => do
    let index ← .place (.text (likePattern op v))
    return .pattern index
  | .comparison _ => do
    let index ← .place (.ofValue v)
    return .scalar index

def bindDocumentOperand (op : Operator) (v : Value) : Staged Bound :=
  match op with
  | .nullness _ => pure .none
  | .textual .contains => do
    let index ← .place (.json v.toJson)
    return .json index
  | .textual _ => do
    let index ← .place (.text (likePattern op v))
    return .pattern index
  | .membership _ => do
    let items ← listItems op v
    let numbers ← .placeAll ((items.filter fun v => v.isNumeric).map .ofValue)
    let texts ← .placeAll ((items.filter fun v => !v.isNumeric).map fun v => .text v.asText)
    return .members numbers texts
  | .comparison _ =>
    if v.isNumeric then do
      let index ← .place (.ofValue v)
      return .numeric index
    else do
      let index ← .place (.text v.asText)
      return .scalar index

def comparisonOf : Operator → Staged Comparison
  | .comparison op => pure op
  | op => .halt (.notComparison op)

/-- Placeholders cast to a type if one is given. -/
def paramsAt (indices : List Nat) (type : Option SqlType) : List Param :=
  indices.map fun index => ⟨index, type⟩

def writeColumn (column : String) (op : Operator) (operand : Bound) : Staged Expr :=
  let e := Expr.column column
  match op, operand with
  | .nullness negated, _ => pure (.isNull negated e)
  | .membership false, .list [] => pure (.truth false)
  | .membership true, .list [] => pure (.isNull true e)
  | .membership negated, .list indices => pure (.among negated e (paramsAt indices none))
  | .textual .notLike, .pattern index => pure (.like true (.cast e .text) (textParam index))
  | _, .pattern index => pure (.like false (.cast e .text) (textParam index))
  | op, .scalar index => do
    let op ← comparisonOf op
    return .compare op e (textParam index)
  | op, operand => .halt (.columnOperand op operand)

def writeDocument (root : Expr) (path : List String) (op : Operator) (operand : Bound) :
    Staged Expr :=
  match op, operand with
  | .nullness false, _ =>
    pure (.paren (either (.isNull false (documentAt root path))
      (.compare .eq (.kind (documentAt root path)) (.string "null"))))
  | .nullness true, _ => pure (.compare .ne (.kind (documentAt root path)) (.string "null"))
  | .textual .contains, .json index =>
    pure (.includes (documentAt root path) (.param ⟨index, some .jsonb⟩))
  | .textual .notLike, .pattern index => pure (.like true (textAt root path) (textParam index))
  | _, .pattern index => pure (.like false (textAt root path) (textParam index))
  | .membership false, .members numbers texts =>
    pure (documentAmong root path (paramsAt numbers (some .numeric)) (paramsAt texts none))
  | .membership true, .members numbers texts =>
    pure (documentNotAmong root path (paramsAt numbers (some .numeric)) (paramsAt texts none))
  | op, .numeric index => do
    let op ← comparisonOf op
    return documentComparison root path op true index
  | op, .scalar index => do
    let op ← comparisonOf op
    return documentComparison root path op false index
  | op, operand => .halt (.documentOperand op operand)

def writeArray (column : Expr) (path : List String) (op : Operator) (operand : Bound) :
    Staged Expr := do
  let condition ← writeDocument .element path op operand
  let some := Expr.someElement (arrayOf column) condition
  if op = .nullness false then
    return .paren (either (.distinct (.kind column) (.string "array")) some)
  else return some

end Stages

/-- Compiles what a leaf asks of its target. -/
def compileTarget (target : Target) (op : Operator) (v : Value) : Staged Expr :=
  let column := Expr.column target.column
  match target.kind with
  | none => do
    let operand ← bindColumnOperand op v
    writeColumn target.column op operand
  | some kind => do
    let operand ← bindDocumentOperand op v
    match kind with
    | .scalar => writeDocument column target.path op operand
    | .unknown => do
      let many ← writeArray column target.path op operand
      let one ← writeDocument column target.path op operand
      return .paren (.choose (holdsArray column) many one)
    | _ => writeArray column target.path op operand

/-- Compiles a leaf of any path, operator and value. -/
def compileLeaf (catalog : Catalog) (field : String) (op : Operator) (v : Value) : Staged Expr :=
  let segments := pathSegments field
  let column := catalog.columnFor (segments.headD field)
  let path := (segments.drop 1).map Text.lower
  let kind := (catalog.kind? column).or (if path.isEmpty then none else some .scalar)
  compileTarget ⟨column, kind, path⟩ op v

end Sql

namespace Draft

open Sql

mutual

def compileNode (catalog : Catalog) : Draft → Staged Expr
  | .matchAll => pure (.truth true)
  | .leaf field op v => compileLeaf catalog field op v
  | .compound _ [] => pure (.truth true)
  | .compound _ [d] => compileNode catalog d
  | .compound c (d :: ds) => do
    let e ← compileNode catalog d
    compileAfter catalog c (.paren e) ds

/-- Joins the conditions of further children to a condition. -/
def compileAfter (catalog : Catalog) (c : Conjunction) (before : Expr) :
    List Draft → Staged Expr
  | [] => pure before
  | d :: ds => do
    let e ← compileNode catalog d
    compileAfter catalog c (.junction c before (.paren e)) ds

end

/-- Compiles a draft with placeholders numbered from `first`. -/
def compileFrom (catalog : Catalog) (d : Draft) (first : Nat) : Except Halt Compiled :=
  if first = 0 then .error .fromZero
  else (compileNode catalog d ⟨first, []⟩).map fun r => ⟨r.1, r.2.arguments⟩

end Draft

namespace Sql

/-! ## What is bound -/

namespace Progress

/-- More arguments are bound. -/
def after (s : Progress) (as : List Argument) : Progress :=
  ⟨s.next + as.length, s.arguments ++ as⟩

/-- There are placeholders left for so many arguments. -/
def HasRoom (s : Progress) (as : List Argument) : Prop := s.next + as.length < indexLimit

variable {s : Progress} {as bs : List Argument}

theorem after_nil : s.after [] = s := by
  simp [after]

theorem after_append : s.after (as ++ bs) = (s.after as).after bs := by
  simp [after, Nat.add_assoc]

theorem HasRoom.left (h : s.HasRoom (as ++ bs)) : s.HasRoom as := by
  unfold HasRoom at h ⊢
  rw [List.length_append] at h
  omega

theorem HasRoom.right (h : s.HasRoom (as ++ bs)) : (s.after as).HasRoom bs := by
  unfold HasRoom at h ⊢
  rw [List.length_append] at h
  simp only [after]
  omega

end Progress

namespace Staged

open Progress

variable {α β : Type} {m : Staged α} {f : α → Staged β} {s : Progress} {as bs : List Argument}
  {a : α} {b : β}

/-- A computation ends with an answer and has bound the given arguments. -/
def Yields (m : Staged α) (s : Progress) (as : List Argument) (a : α) : Prop :=
  m s = .ok (a, s.after as)

theorem yields_pure (a : α) (s : Progress) : Yields (pure a) s [] a := by
  rw [Yields, after_nil]
  rfl

theorem Yields.bind (h : Yields m s as a) (hf : Yields (f a) (s.after as) bs b) :
    Yields (m >>= f) s (as ++ bs) b := by
  have hrun : (m >>= f) s = f a (s.after as) := by
    show (m s).bind (fun r => f r.1 r.2) = _
    rw [h]
    rfl
  rw [Yields, hrun, hf, after_append]

/-- The rest of a computation binds nothing. -/
theorem Yields.done (h : Yields m s as a) (hf : Yields (f a) (s.after as) [] b) :
    Yields (m >>= f) s as b := by
  rw [← List.append_nil as]
  exact h.bind hf

/-- The start of a computation binds nothing. -/
theorem Yields.start (h : Yields m s [] a) (hf : Yields (f a) s as b) :
    Yields (m >>= f) s as b := by
  rw [← List.nil_append as]
  exact h.bind (by rwa [after_nil])

theorem yields_place {x : Argument} (h : s.HasRoom [x]) : Yields (place x) s [x] s.next := by
  have hnext : s.next + 1 < indexLimit := h
  rw [Yields, place, if_pos hnext]
  rfl

theorem yields_placeAll (h : s.HasRoom as) :
    Yields (placeAll as) s as (List.range' s.next as.length) := by
  induction as generalizing s with
  | nil => exact yields_pure _ _
  | cons x as ih =>
    rw [← List.singleton_append] at h
    refine (yields_place h.left).bind ?_
    exact (ih h.right).done (yields_pure _ _)

end Staged

open Staged

section Conditions

variable {s : Progress} {c : Condition} {first : Nat}

/-- The shape that the operand of a condition takes in a plain column. -/
def columnOperand (c : Condition) (first : Nat) : Bound :=
  match c with
  | .comparison _ _ => .scalar first
  | .membership _ items => .list (List.range' first items.length)
  | .textual _ _ => .pattern first
  | .nullness _ => .none

/-- The shape that the operand of a condition takes in a document. -/
def documentOperand (c : Condition) (first : Nat) : Bound :=
  match c with
  | .comparison _ o => if o.scalar.isNumeric then .numeric first else .scalar first
  | .membership _ items =>
    let count := (numericItems items).length
    .members (List.range' first count) (List.range' (first + count) (otherItems items).length)
  | .textual .contains _ => .json first
  | .textual _ _ => .pattern first
  | .nullness _ => .none

theorem ofValue_items (items : List Operand) :
    (items.map fun o => Value.scalar o.scalar).map Argument.ofValue =
      items.map fun o => .ofScalar o.scalar := by
  rw [List.map_map]
  rfl

theorem numbers_bound (items : List Operand) :
    ((items.map fun o => Value.scalar o.scalar).filter fun v => v.isNumeric).map .ofValue =
      (numericItems items).map fun o => documentArgument o.scalar := by
  rw [List.filter_map, List.map_map]
  refine List.map_congr_left fun o ho => ?_
  have hnum : o.scalar.isNumeric = true := (List.mem_filter.1 ho).2
  simp [documentArgument, hnum, Argument.ofValue]

theorem texts_bound (items : List Operand) :
    (((items.map fun o => Value.scalar o.scalar).filter fun v => !v.isNumeric).map fun v =>
        Argument.text v.asText) =
      (otherItems items).map fun o => documentArgument o.scalar := by
  rw [List.filter_map, List.map_map]
  refine List.map_congr_left fun o ho => ?_
  have hnum : o.scalar.isNumeric = false := by
    simpa [Value.isNumeric] using (List.mem_filter.1 ho).2
  simp [documentArgument, hnum, Value.asText]

theorem bindColumnOperand_yields (h : s.HasRoom (columnArguments c)) :
    Yields (bindColumnOperand c.operator c.value) s (columnArguments c)
      (columnOperand c s.next) := by
  cases c with
  | comparison op o => exact (yields_place h).done (yields_pure _ _)
  | membership negated items =>
    refine (yields_pure _ _).start ?_
    rw [ofValue_items]
    refine (yields_placeAll h).done ?_
    rw [columnArguments, List.length_map]
    exact yields_pure _ _
  | textual test o => cases test <;> exact (yields_place h).done (yields_pure _ _)
  | nullness negated => exact yields_pure _ _

theorem writeColumn_yields (column : String) :
    Yields (writeColumn column c.operator (columnOperand c first)) s []
      (columnTest column c first) := by
  cases c with
  | comparison op o => exact (yields_pure op s).start (yields_pure _ _)
  | membership negated items =>
    cases items with
    | nil => cases negated <;> exact yields_pure _ _
    | cons o items => cases negated <;> exact yields_pure _ _
  | textual test o => cases test <;> exact yields_pure _ _
  | nullness negated => exact yields_pure _ _

theorem bindDocumentOperand_yields (h : s.HasRoom (documentArguments c)) :
    Yields (bindDocumentOperand c.operator c.value) s (documentArguments c)
      (documentOperand c s.next) := by
  cases c with
  | comparison op o =>
    cases hnum : o.scalar.isNumeric with
    | true =>
      simp only [documentArguments, documentArgument, documentOperand, hnum, if_true] at h ⊢
      simp only [bindDocumentOperand, Condition.operator, Condition.value, Value.isNumeric, hnum,
        if_true]
      exact (yields_place h).done (yields_pure _ _)
    | false =>
      simp only [documentArguments, documentArgument, documentOperand, hnum, Bool.false_eq_true,
        if_false] at h ⊢
      simp only [bindDocumentOperand, Condition.operator, Condition.value, Value.isNumeric, hnum,
        Bool.false_eq_true, if_false]
      exact (yields_place h).done (yields_pure _ _)
  | membership negated items =>
    refine (yields_pure _ _).start ?_
    rw [numbers_bound, texts_bound]
    rw [documentArguments, List.map_append] at h ⊢
    refine (yields_placeAll h.left).bind ((yields_placeAll h.right).done ?_)
    rw [List.length_map, List.length_map]
    simp only [Progress.after, List.length_map]
    exact yields_pure _ _
  | textual test o => cases test <;> exact (yields_place h).done (yields_pure _ _)
  | nullness negated => exact yields_pure _ _

theorem writeDocument_yields (root : Expr) (path : List String) :
    Yields (writeDocument root path c.operator (documentOperand c first)) s []
      (documentTest root path c first) := by
  cases c with
  | comparison op o =>
    simp only [documentOperand, documentTest]
    cases o.scalar.isNumeric <;> exact (yields_pure op s).start (yields_pure _ _)
  | membership negated items => cases negated <;> exact yields_pure _ _
  | textual test o => cases test <;> exact yields_pure _ _
  | nullness negated => cases negated <;> exact yields_pure _ _

theorem writeArray_yields (column : Expr) (path : List String) :
    Yields (writeArray column path c.operator (documentOperand c first)) s []
      (arrayTest column path c first) := by
  refine (writeDocument_yields .element path).start ?_
  cases c with
  | nullness negated => cases negated <;> exact yields_pure _ _
  | _ => exact yields_pure _ _

end Conditions

/-! ## Predicates -/

section Predicates

variable {catalog : Catalog} {s : Progress}

theorem compileLeaf_yields (l : Leaf) (h : s.HasRoom (leafArguments catalog l)) :
    Yields (compileLeaf catalog l.field.text l.condition.operator l.condition.value) s
      (leafArguments catalog l) (leafTest catalog l s.next) := by
  have hleaf : compileLeaf catalog l.field.text l.condition.operator l.condition.value =
      compileTarget (targetOf catalog l) l.condition.operator l.condition.value := rfl
  rw [hleaf]
  unfold leafArguments at h ⊢
  unfold leafTest
  generalize targetOf catalog l = target at h ⊢
  obtain ⟨column, kind, path⟩ := target
  cases kind with
  | none => exact (bindColumnOperand_yields h).done (writeColumn_yields column)
  | some kind =>
    refine (bindDocumentOperand_yields h).done ?_
    cases kind with
    | scalar => exact writeDocument_yields _ path
    | arrayOfScalars => exact writeArray_yields _ path
    | arrayOfObjects => exact writeArray_yields _ path
    | unknown =>
      exact (writeArray_yields _ path).start ((writeDocument_yields _ path).start (yields_pure _ _))

mutual

/-- A predicate compiles if its arguments have room, to its condition. -/
theorem compileNode_yields : ∀ (p : Predicate) (s : Progress), s.HasRoom (arguments catalog p) →
    Yields (p.draft.compileNode catalog) s (arguments catalog p) (test catalog s.next p)
  | .matchAll, s, _ => yields_pure _ _
  | .leaf l, s, h => compileLeaf_yields l h
  | .compound c [], s, _ => yields_pure _ _
  | .compound c [p], s, h => by
    rw [arguments, argumentsOf, argumentsOf, List.append_nil] at h ⊢
    exact compileNode_yields p s h
  | .compound c (p :: q :: ps), s, h => by
    rw [arguments, argumentsOf] at h ⊢
    exact (compileNode_yields p s h.left).bind (compileAfter_yields c _ (q :: ps) _ h.right)

theorem compileAfter_yields (c : Conjunction) (before : Expr) : ∀ (ps : List Predicate)
    (s : Progress), s.HasRoom (argumentsOf catalog ps) →
    Yields (Draft.compileAfter catalog c before (drafts ps)) s (argumentsOf catalog ps)
      (testAfter catalog c before s.next ps)
  | [], s, _ => yields_pure _ _
  | p :: ps, s, h => by
    rw [argumentsOf] at h ⊢
    exact (compileNode_yields p s h.left).bind (compileAfter_yields c _ ps _ h.right)

end

end Predicates

/-- A predicate compiles as it is, whatever is known about it by type. -/
theorem compileFrom_draft (catalog : Catalog) (p : Predicate) {first : Nat} (hfirst : first ≠ 0)
    (hroom : first + (arguments catalog p).length < indexLimit) :
    p.draft.compileFrom catalog first = .ok (compileFrom catalog p first) := by
  have hnode : p.draft.compileNode catalog ⟨first, []⟩ = _ :=
    compileNode_yields p ⟨first, []⟩ hroom
  rw [Draft.compileFrom, if_neg hfirst, hnode]
  rfl

/-- A membership without a list is no predicate, and halts. -/
example :
    (match Draft.compileFrom .empty (.leaf "a" (.membership false) .null) 1 with
      | .error (.listWanted (.membership false) .null) => true
      | _ => false) = true := by
  decide +kernel

end Sql

namespace Draft

open Sql

/-- Whatever can be obtained is valid, is decided on every entity, and compiles for every catalog as
long as placeholders are numbered from one or more and their numbers fit a counter; both as the
predicate that it is. -/
theorem Obtained.compiles {d : Draft} (h : d.Obtained) :
    d.Valid ∧ ∃ p : Predicate, p.draft = d ∧
      (∀ e, d.holds? e = some (p.holds e)) ∧
      ∀ catalog first, 1 ≤ first → first + (arguments catalog p).length < indexLimit →
        d.compileFrom catalog first = .ok (Sql.compileFrom catalog p first) := by
  have hvalid : d.Valid := obtained_iff_valid.1 h
  obtain ⟨p, rfl⟩ := hvalid.exists_predicate
  refine ⟨hvalid, p, rfl, fun e => p.holds?_draft e, fun catalog first hfirst hroom => ?_⟩
  exact compileFrom_draft catalog p (by omega) hroom

/-- `(labels.n IN (4, "far") AND owner IS NOT NULL)`. -/
def labelled : Predicate :=
  .compound .and
    [.leaf ⟨⟨"labels.n", by decide +kernel⟩, .membership false [⟨.int 4, rfl⟩, ⟨.text "far", rfl⟩]⟩,
      .leaf ⟨⟨"owner", by decide +kernel⟩, .nullness true⟩]

theorem Obtained.compiles_labelled :
    let catalog := Catalog.empty.withDocument "labels" .unknown
    let d : Draft := .compound .and
      [.leaf "labels.n" (.membership false) (.list [.scalar (.int 4), .scalar (.text "far")]),
        .leaf "owner" (.nullness true) .null]
    d.Obtained ∧ d.Valid ∧ d.holds? .null = some (labelled.holds .null) ∧
      d.compileFrom catalog 7 = .ok (Sql.compileFrom catalog labelled 7) := by
  intro catalog d
  have hobtained : d.Obtained := by
    refine .compound .and fun child hchild => ?_
    simp only [List.mem_cons, List.not_mem_nil, or_false] at hchild
    rcases hchild with rfl | rfl
    · exact .made (Predicate.make_leaf
        ⟨⟨"labels.n", by decide +kernel⟩, .membership false [⟨.int 4, rfl⟩, ⟨.text "far", rfl⟩]⟩)
    · exact .made (Predicate.make_leaf ⟨⟨"owner", by decide +kernel⟩, .nullness true⟩)
  obtain ⟨hvalid, p, hp, hholds, hcompiles⟩ := Obtained.compiles hobtained
  have hlabelled : p = labelled := Predicate.eq_of_draft p labelled hp
  subst hlabelled
  refine ⟨hobtained, hvalid, hholds .null, hcompiles catalog 7 (by decide) ?_⟩
  decide +kernel

end Draft

end Sieve
