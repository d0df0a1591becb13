import Mathlib.Data.List.Forall2
import Sieve.Proofs.Sql.Numbering

/-!
# Sieve.Proofs.Sql.Names

The names in SQL text. A text consists of pieces: tokens that are the same whatever names there are,
the names of an element, names of columns and keys of paths. Each piece is one token. The name of a
column is written as an identifier, bare or quoted, and a key as a text in quotes; whatever
characters they consist of, the server reads back just them.

A reference is a column, or a path into a column or into an element of an array. How many of them a
leaf needs hangs on the kind of its column and on its condition: `references`. The names in a text
are those of the references of its leaves, in that order.

* `lex_pieces`: the text of an expression is cut into its pieces.
* `names_test`: the names in a compiled predicate.
-/

namespace Sieve
namespace Sql

/-- A token that does not hang on names, a name that the compiler itself gives to an element, the
name of a column, or a key of a path. -/
inductive Piece where
  | fixed (t : Token)
  | own (name : String)
  | column (name : String)
  | key (name : String)

/-- The name that a token stands for as an identifier; a bare word counts in lower case. -/
def Token.identifier? : Token → Option String
  | .word s => some (Text.asciiLower s)
  | .quoted name => some name
  | _ => none

namespace Piece

def token : Piece → Token
  | .fixed t => t
  | .own name => .word name
  | .column name => .named name
  | .key name => .string name

/-- The piece is read from the token. -/
def IsReadFrom : Piece → Token → Prop
  | .fixed t, u => u = t
  | .own name, u => u = .word name
  | .column name, u => u.identifier? = some name
  | .key name, u => u = .string name

def isName : Piece → Bool
  | .fixed _ => false
  | _ => true

/-- Bare names are in lower case. -/
theorem asciiLower_of_isBare {name : String} (h : isBare name = true) :
    Text.asciiLower name = name := by
  have hlower : ∀ c ∈ name.toList, c.toLower = c := by
    intro c hc
    have hplain : continuesBare c = true := by
      unfold isBare at h
      cases hchars : name.toList with
      | nil =>
        rw [hchars] at hc
        cases hc
      | cons d ds =>
        simp only [hchars, Bool.and_eq_true] at h
        rw [hchars] at hc
        rcases List.mem_cons.1 hc with rfl | hc
        · have hd := h.1
          simp only [startsBare, Bool.or_eq_true] at hd
          rcases hd with hd | hd <;> simp [continuesBare, hd]
        · exact List.all_eq_true.1 h.2 c hc
    have hupper : c.isUpper = false := by
      cases hu : c.isUpper with
      | false => rfl
      | true =>
        simp [Char.isUpper, UInt32.le_iff_toNat_le] at hu
        simp [continuesBare, Char.isLower, Char.isDigit, UInt32.le_iff_toNat_le, or_assoc] at hplain
        rcases hplain with hp | hp | rfl
        · omega
        · omega
        · exact absurd hu (by decide)
    exact Char.toLower_eq_of_not_isUpper (by simp [hupper])
  rw [Text.asciiLower, List.map_congr_left hlower, List.map_id', String.ofList_toList]

theorem identifier?_named (name : String) : (Token.named name).identifier? = some name := by
  unfold Token.named
  cases hbare : isBare name with
  | false => rfl
  | true => exact congrArg some (asciiLower_of_isBare hbare)

theorem isReadFrom_token (p : Piece) : p.IsReadFrom p.token := by
  cases p with
  | fixed t => rfl
  | own name => rfl
  | column name => exact identifier?_named name
  | key name => rfl

end Piece

/-- Tokens that do not hang on names. -/
def fixed (ts : List Token) : List Piece := ts.map .fixed

namespace Expr

/-- The pieces of the text of an expression. -/
def pieces : Expr → List Piece
  | .column name => [.column name]
  | .element => [.own "elem", .fixed (.mark "."), .own "value"]
  | .member doc key => doc.pieces ++ [.fixed (.mark "->"), .key key]
  | .memberText doc key => doc.pieces ++ [.fixed (.mark "->>"), .key key]
  | .wholeText doc =>
    doc.pieces ++ fixed [.blank, .mark "#>>", .blank, .string "\x7b\x7d"]
  | .kind doc => fixed [.word "jsonb_typeof", .mark "("] ++ doc.pieces ++ fixed [.mark ")"]
  | .cast e type => e.pieces ++ fixed [.mark "::", .word type.name]
  | .bytewise e => e.pieces ++ fixed [.blank, .word "COLLATE", .blank, .quoted "C"]
  | .compare op a b => a.pieces ++ fixed [.blank, .mark (comparisonMark op), .blank] ++ b.pieces
  | .isNull negated e =>
    e.pieces ++ fixed (.blank :: .word "IS" :: .blank :: negatable negated "NULL")
  | .distinct a b =>
    a.pieces ++ fixed (.blank :: words ["IS", "DISTINCT", "FROM"] ++ [.blank]) ++ b.pieces
  | .like negated e pattern =>
    e.pieces ++ fixed (.blank :: negatable negated "LIKE" ++ [.blank]) ++ pattern.pieces ++
      fixed [.blank, .word "ESCAPE", .blank, .string "\\"]
  | .among negated e items =>
    e.pieces ++ fixed (.blank :: negatable negated "IN" ++ .blank ::
      inParens (listed (items.map Param.tokens)))
  | .includes a b => a.pieces ++ fixed [.blank, .mark "@>", .blank] ++ b.pieces
  | .junction c a b => a.pieces ++ fixed [.blank, .word c.token, .blank] ++ b.pieces
  | .choose condition yes no =>
    fixed (words ["CASE", "WHEN"] ++ [.blank]) ++ condition.pieces ++
      fixed [.blank, .word "THEN", .blank] ++ yes.pieces ++
      fixed [.blank, .word "ELSE", .blank] ++ no.pieces ++ fixed [.blank, .word "END"]
  | .whenever condition yes =>
    fixed (words ["CASE", "WHEN"] ++ [.blank]) ++ condition.pieces ++
      fixed [.blank, .word "THEN", .blank] ++ yes.pieces ++ fixed [.blank, .word "END"]
  | .someElement array condition =>
    fixed [.word "EXISTS", .blank, .mark "(", .word "SELECT", .blank, .number 1, .blank,
        .word "FROM", .blank, .word "jsonb_array_elements", .mark "("] ++ array.pieces ++
      fixed [.mark ")", .blank, .word "AS", .blank, .word "elem", .mark "(", .word "value",
        .mark ")", .blank, .word "WHERE", .blank] ++ condition.pieces ++ fixed [.mark ")"]
  | .paren e => fixed [.mark "("] ++ e.pieces ++ fixed [.mark ")"]
  | e => fixed e.tokens

theorem map_token_fixed (ts : List Token) : (fixed ts).map Piece.token = ts := by
  simp [fixed, Function.comp_def, Piece.token]

theorem tokens_eq (e : Expr) : e.tokens = e.pieces.map Piece.token := by
  induction e with
  | column name => rfl
  | truth b => exact (map_token_fixed _).symm
  | element => rfl
  | param p => exact (map_token_fixed _).symm
  | string s => rfl
  | _ => simp [tokens, pieces, map_token_fixed, inParens, Piece.token, *]

end Expr

/-- The text of an expression is cut into its pieces, one token for each. -/
theorem lex_pieces (e : Expr) :
    ∃ ts, lex e.text = some ts ∧ List.Forall₂ Piece.IsReadFrom e.pieces ts := by
  refine ⟨e.tokens, lex_text e, ?_⟩
  rw [Expr.tokens_eq, List.forall₂_map_right_iff]
  exact List.forall₂_same.2 fun p _ => p.isReadFrom_token

/-! ## References -/

/-- A column, or a path into a column or, where no column is given, into an element. -/
structure Reference where
  column : Option String
  path : List String
  deriving DecidableEq

/-- The names that a reference is written with. -/
def Reference.pieces (r : Reference) : List Piece :=
  let root := match r.column with
    | some name => [.column name]
    | none => [.own "elem", .own "value"]
  root ++ r.path.map .key

/-- How often the test of a document looks at the end of the path. To find a number there takes two
looks: at its kind, then at its text. -/
def looks : Condition → Nat
  | .comparison op o =>
    -- To differ from a number, something has to be there, and no number or another one.
    if o.scalar.isNumeric then if op = .ne then 5 else 2
    else if op.isOrdering then 2 else 1
  | .membership negated items =>
    let presence := if negated then 1 else 0
    let numbers := if (numericItems items).isEmpty then 0 else if negated then 4 else 2
    let texts := if (otherItems items).isEmpty then 0 else 1
    presence + numbers + texts
  | .textual _ _ => 1
  | .nullness negated => if negated then 1 else 2

/-- The references of the test of a plain column. -/
def columnReferences (column : String) : Condition → List Reference
  | .membership false [] => []
  | _ => [⟨some column, []⟩]

/-- The references of the test of an array: the column is asked for its kind and its content, then
each element is looked at. -/
def arrayReferences (column : String) (path : List String) (c : Condition) : List Reference :=
  let asked := match c with
    | .nullness false => 3
    | _ => 2
  List.replicate asked ⟨some column, []⟩ ++ List.replicate (looks c) ⟨none, path⟩

/-- The references of a leaf, in the order of its text. -/
def references (catalog : Catalog) (l : Leaf) : List Reference :=
  let column := catalog.columnFor l.field.root
  let path := l.field.nested.map Text.lower
  let inside := List.replicate (looks l.condition) ⟨some column, path⟩
  match catalog.kind? column with
  | none => if path.isEmpty then columnReferences column l.condition else inside
  | some .scalar => inside
  | some .unknown => ⟨some column, []⟩ :: arrayReferences column path l.condition ++ inside
  | some _ => arrayReferences column path l.condition

/-- The names among pieces. -/
def namesOf (ps : List Piece) : List Piece := ps.filter Piece.isName

/-- The names are those of the references, one reference after the other. -/
def Refers (rs : List Reference) (ps : List Piece) : Prop :=
  namesOf ps = rs.flatMap Reference.pieces

section Names

variable {rs us : List Reference} {ps qs : List Piece}

@[simp] theorem namesOf_append (ps qs : List Piece) :
    namesOf (ps ++ qs) = namesOf ps ++ namesOf qs :=
  List.filter_append ..

@[simp] theorem namesOf_fixed (ts : List Token) : namesOf (fixed ts) = [] := by
  simp [namesOf, fixed, Piece.isName]

namespace Refers

theorem append (hp : Refers rs ps) (hq : Refers us qs) : Refers (rs ++ us) (ps ++ qs) := by
  unfold Refers at *
  rw [namesOf_append, hp, hq, List.flatMap_append]

theorem fixed (ts : List Token) : Refers [] (fixed ts) := namesOf_fixed ts

section Compounds

variable {a b e : Expr}

theorem paren (h : Refers rs e.pieces) : Refers rs (Expr.paren e).pieces := by
  unfold Refers at *
  simp [Expr.pieces, h]

theorem junction (c : Conjunction) (ha : Refers rs a.pieces) (hb : Refers us b.pieces) :
    Refers (rs ++ us) (Expr.junction c a b).pieces := by
  unfold Refers at *
  simp [Expr.pieces, ha, hb]

theorem holdsArray (h : Refers rs e.pieces) : Refers rs (holdsArray e).pieces := by
  unfold Refers at *
  simp [Sql.holdsArray, Expr.pieces, h]

theorem isNoArray (h : Refers rs e.pieces) :
    Refers rs (Expr.distinct (.kind e) (.string "array")).pieces := by
  unfold Refers at *
  simp [Expr.pieces, h]

theorem arrayOf (h : Refers rs e.pieces) : Refers (rs ++ rs) (arrayOf e).pieces := by
  unfold Refers at *
  simp [Sql.arrayOf, Sql.holdsArray, Expr.pieces, h]

theorem someElement (ha : Refers rs a.pieces) (hb : Refers us b.pieces) :
    Refers (rs ++ us) (Expr.someElement a b).pieces := by
  unfold Refers at *
  simp [Expr.pieces, ha, hb]

theorem choose {vs : List Reference} (he : Refers rs e.pieces) (ha : Refers us a.pieces)
    (hb : Refers vs b.pieces) : Refers (rs ++ us ++ vs) (Expr.choose e a b).pieces := by
  unfold Refers at *
  simp [Expr.pieces, he, ha, hb]

end Compounds

end Refers

end Names

section Accessors

variable (root : Expr) (path : List String)

theorem namesOf_members :
    namesOf (path.foldl Expr.member root).pieces = namesOf root.pieces ++ path.map .key := by
  induction path generalizing root with
  | nil => simp
  | cons key path ih =>
    rw [List.foldl_cons, ih, Expr.pieces, namesOf_append, List.append_assoc]
    rfl

theorem namesOf_documentAt :
    namesOf (documentAt root path).pieces = namesOf root.pieces ++ path.map .key := by
  cases path with
  | nil => exact namesOf_members root []
  | cons key path =>
    rw [documentAt, Expr.pieces, namesOf_append, namesOf_append, namesOf_fixed, namesOf_fixed,
      namesOf_members, List.nil_append, List.append_nil]
    exact List.cons_ne_nil key path

theorem namesOf_textChain (key : String) :
    namesOf (textChain root key path).pieces = namesOf root.pieces ++ (key :: path).map .key := by
  induction path generalizing root key with
  | nil =>
    rw [textChain, Expr.pieces, namesOf_append]
    rfl
  | cons next path ih =>
    rw [textChain, ih, Expr.pieces, namesOf_append, List.append_assoc]
    rfl

theorem namesOf_textAt :
    namesOf (textAt root path).pieces = namesOf root.pieces ++ path.map .key := by
  cases path with
  | nil =>
    rw [textAt, Expr.pieces, Expr.pieces, namesOf_append, namesOf_append, namesOf_append,
      namesOf_fixed, namesOf_fixed, namesOf_fixed]
    simp
  | cons key path =>
    rw [textAt, Expr.pieces, namesOf_append, namesOf_append, namesOf_fixed, namesOf_fixed,
      namesOf_textChain, List.nil_append, List.append_nil]

end Accessors

section Tests

theorem refers_column (name : String) : Refers [⟨some name, []⟩] (Expr.column name).pieces := rfl

theorem refers_columnTest (column : String) (c : Condition) (first : Nat) :
    Refers (columnReferences column c) (columnTest column c first).pieces := by
  have hcolumn := refers_column column
  cases c with
  | comparison op o => rfl
  | membership negated items =>
    cases items with
    | nil => cases negated <;> rfl
    | cons o items => cases negated <;> exact hcolumn.append (.fixed _)
  | textual test o => cases test <;> rfl
  | nullness negated => exact hcolumn.append (.fixed _)

/-- The document and the text at the end of a path are written with one reference each. -/
structure WrittenWith (root : Expr) (path : List String) (r : Reference) : Prop where
  document : namesOf (documentAt root path).pieces = r.pieces
  text : namesOf (textAt root path).pieces = r.pieces

theorem writtenWith_of_root {root : Expr} {column : Option String} (path : List String)
    (h : Refers [⟨column, []⟩] root.pieces) : WrittenWith root path ⟨column, path⟩ := by
  have hpieces : (⟨column, path⟩ : Reference).pieces = namesOf root.pieces ++ path.map .key := by
    rw [h]
    simp [Reference.pieces]
  exact ⟨by rw [namesOf_documentAt, hpieces], by rw [namesOf_textAt, hpieces]⟩

namespace WrittenWith

variable {root : Expr} {path : List String} {r : Reference} (h : WrittenWith root path r)

include h

theorem number : namesOf (numberAt root path).pieces = r.pieces ++ r.pieces := by
  simp [numberAt, Expr.pieces, h.document, h.text]

theorem comparison (op : Comparison) (o : Operand) (first : Nat) :
    Refers (List.replicate (looks (.comparison op o)) r)
      (documentTest root path (.comparison op o) first).pieces := by
  unfold Refers documentTest looks
  cases hnum : o.scalar.isNumeric <;> cases op <;>
    simp [hnum, documentComparison, Comparison.isOrdering, both, either, numberParam, textParam,
      Expr.pieces, h.document, h.text, h.number]

theorem membership (negated : Bool) (items : List Operand) (first : Nat) :
    Refers (List.replicate (looks (.membership negated items)) r)
      (documentTest root path (.membership negated items) first).pieces := by
  unfold Refers documentTest looks
  cases hn : numericItems items <;> cases ho : otherItems items <;> cases negated <;>
    simp [hn, ho, documentAmong, documentNotAmong, paramsFrom, List.range'_succ, both, either,
      Expr.pieces, h.text, h.number]

theorem textual (test : TextTest) (o : Operand) (first : Nat) :
    Refers (List.replicate (looks (.textual test o)) r)
      (documentTest root path (.textual test o) first).pieces := by
  unfold Refers documentTest looks
  cases test <;> simp [textParam, Expr.pieces, h.document, h.text]

theorem nullness (negated : Bool) (first : Nat) :
    Refers (List.replicate (looks (.nullness negated)) r)
      (documentTest root path (.nullness negated) first).pieces := by
  unfold Refers documentTest looks
  cases negated <;> simp [either, Expr.pieces, h.document]

theorem refers (c : Condition) (first : Nat) :
    Refers (List.replicate (looks c) r) (documentTest root path c first).pieces := by
  cases c with
  | comparison op o => exact h.comparison op o first
  | membership negated items => exact h.membership negated items first
  | textual test o => exact h.textual test o first
  | nullness negated => exact h.nullness negated first

end WrittenWith

theorem writtenWith_column (name : String) (path : List String) :
    WrittenWith (.column name) path ⟨some name, path⟩ :=
  writtenWith_of_root path (refers_column name)

theorem writtenWith_element (path : List String) : WrittenWith .element path ⟨none, path⟩ :=
  writtenWith_of_root path rfl

theorem refers_arrayTest (column : String) (path : List String) (c : Condition) (first : Nat) :
    Refers (arrayReferences column path c) (arrayTest (.column column) path c first).pieces := by
  have hcolumn := refers_column column
  have helement := (writtenWith_element path).refers c first
  have hsome := hcolumn.arrayOf.someElement helement
  cases c with
  | nullness negated =>
    cases negated with
    | false => exact (hcolumn.isNoArray.junction .or hsome).paren
    | true => exact hsome
  | _ => exact hsome

end Tests

/-! ## Predicates -/

theorem refers_leafTest (catalog : Catalog) (l : Leaf) (first : Nat) :
    Refers (references catalog l) (leafTest catalog l first).pieces := by
  simp only [references, leafTest, targetOf]
  generalize catalog.columnFor l.field.root = column
  generalize l.field.nested.map Text.lower = path
  have hinside := (writtenWith_column column path).refers l.condition first
  have harray := refers_arrayTest column path l.condition first
  cases catalog.kind? column with
  | none =>
    cases path with
    | nil => exact refers_columnTest column l.condition first
    | cons key path => exact hinside
  | some kind =>
    cases kind with
    | scalar => exact hinside
    | arrayOfScalars => exact harray
    | arrayOfObjects => exact harray
    | unknown => exact ((refers_column column).holdsArray.choose harray hinside).paren

mutual

/-- The names in the condition of a predicate are those that its leaves refer to. -/
theorem names_test (catalog : Catalog) : ∀ (p : Predicate) (first : Nat),
    Refers (p.leaves.flatMap (references catalog)) (test catalog first p).pieces
  | .matchAll, first => .fixed _
  | .leaf l, first => by
    rw [test, Predicate.leaves, List.flatMap_singleton]
    exact refers_leafTest catalog l first
  | .compound _ [], first => .fixed _
  | .compound _ [p], first => by
    rw [test, Predicate.leaves, Predicate.leavesOf, Predicate.leavesOf, List.append_nil]
    exact names_test catalog p first
  | .compound c (p :: q :: ps), first => by
    rw [test, Predicate.leaves, Predicate.leavesOf, List.flatMap_append]
    · exact names_testAfter catalog c (q :: ps) (names_test catalog p first).paren _
    · exact fun h => by cases h

theorem names_testAfter (catalog : Catalog) : ∀ (c : Conjunction) (ps : List Predicate)
    {before : Expr} {rs : List Reference}, Refers rs before.pieces → ∀ first : Nat,
    Refers (rs ++ (Predicate.leavesOf ps).flatMap (references catalog))
      (testAfter catalog c before first ps).pieces
  | c, [], before, rs, h, first => by
    rw [testAfter, Predicate.leavesOf, List.flatMap_nil, List.append_nil]
    exact h
  | c, p :: ps, before, rs, h, first => by
    rw [testAfter, Predicate.leavesOf, List.flatMap_append, ← List.append_assoc]
    exact names_testAfter catalog c ps (h.junction c (names_test catalog p first).paren) _

end

end Sql
end Sieve
