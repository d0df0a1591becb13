import Sieve.Proofs.Sql.Correspondence
import Sieve.Proofs.Sql.Names

/-!
# Sieve.Proofs.Sql.Renaming

Other names in the same places. Predicates that differ only in the columns that their leaves mean
and in the keys of their paths compile to texts that differ only in the names of those columns and
in those keys (`shape_test`). `compileFrom_names` says that and what the names in the text are.
-/

namespace Sieve
namespace Sql

/-- The piece without its name. -/
def Piece.shape : Piece → Piece
  | .column _ => .column ""
  | .key _ => .key ""
  | p => p

namespace Expr

/-- The pieces of an expression without their names. -/
def shape (e : Expr) : List Piece := e.pieces.map Piece.shape

section Shape

variable (a b e doc condition yes no array pattern : Expr) (key : String) (negated : Bool)

theorem shape_fixed (ts : List Token) : (fixed ts).map Piece.shape = fixed ts := by
  simp [fixed, Piece.shape]

@[simp] theorem shape_column (name : String) : (column name).shape = [.column ""] := rfl

@[simp] theorem shape_member :
    (member doc key).shape = doc.shape ++ [.fixed (.mark "->"), .key ""] := by
  simp [shape, pieces, Piece.shape]

@[simp] theorem shape_memberText :
    (memberText doc key).shape = doc.shape ++ [.fixed (.mark "->>"), .key ""] := by
  simp [shape, pieces, Piece.shape]

@[simp] theorem shape_wholeText : (wholeText doc).shape =
    doc.shape ++ fixed [.blank, .mark "#>>", .blank, .string "\x7b\x7d"] := by
  simp [shape, pieces, shape_fixed]

@[simp] theorem shape_kind : (kind doc).shape =
    fixed [.word "jsonb_typeof", .mark "("] ++ doc.shape ++ fixed [.mark ")"] := by
  simp [shape, pieces, shape_fixed]

@[simp] theorem shape_cast (type : SqlType) :
    (cast e type).shape = e.shape ++ fixed [.mark "::", .word type.name] := by
  simp [shape, pieces, shape_fixed]

@[simp] theorem shape_bytewise :
    (bytewise e).shape = e.shape ++ fixed [.blank, .word "COLLATE", .blank, .quoted "C"] := by
  simp [shape, pieces, shape_fixed]

@[simp] theorem shape_compare (op : Comparison) : (compare op a b).shape =
    a.shape ++ fixed [.blank, .mark (comparisonMark op), .blank] ++ b.shape := by
  simp [shape, pieces, shape_fixed]

@[simp] theorem shape_isNull : (isNull negated e).shape =
    e.shape ++ fixed (.blank :: .word "IS" :: .blank :: negatable negated "NULL") := by
  simp [shape, pieces, shape_fixed]

@[simp] theorem shape_distinct : (distinct a b).shape =
    a.shape ++ fixed (.blank :: words ["IS", "DISTINCT", "FROM"] ++ [.blank]) ++ b.shape := by
  simp [shape, pieces, shape_fixed]

@[simp] theorem shape_like : (like negated e pattern).shape =
    e.shape ++ fixed (.blank :: negatable negated "LIKE" ++ [.blank]) ++ pattern.shape ++
      fixed [.blank, .word "ESCAPE", .blank, .string "\\"] := by
  simp [shape, pieces, shape_fixed]

@[simp] theorem shape_among (items : List Param) : (among negated e items).shape =
    e.shape ++ fixed (.blank :: negatable negated "IN" ++ .blank ::
      inParens (listed (items.map Param.tokens))) := by
  simp [shape, pieces, shape_fixed]

@[simp] theorem shape_includes :
    (includes a b).shape = a.shape ++ fixed [.blank, .mark "@>", .blank] ++ b.shape := by
  simp [shape, pieces, shape_fixed]

@[simp] theorem shape_junction (c : Conjunction) : (junction c a b).shape =
    a.shape ++ fixed [.blank, .word c.token, .blank] ++ b.shape := by
  simp [shape, pieces, shape_fixed]

@[simp] theorem shape_choose : (choose condition yes no).shape =
    fixed (words ["CASE", "WHEN"] ++ [.blank]) ++ condition.shape ++
      fixed [.blank, .word "THEN", .blank] ++ yes.shape ++
      fixed [.blank, .word "ELSE", .blank] ++ no.shape ++ fixed [.blank, .word "END"] := by
  simp [shape, pieces, shape_fixed]

@[simp] theorem shape_whenever : (whenever condition yes).shape =
    fixed (words ["CASE", "WHEN"] ++ [.blank]) ++ condition.shape ++
      fixed [.blank, .word "THEN", .blank] ++ yes.shape ++ fixed [.blank, .word "END"] := by
  simp [shape, pieces, shape_fixed]

@[simp] theorem shape_someElement : (someElement array condition).shape =
    fixed [.word "EXISTS", .blank, .mark "(", .word "SELECT", .blank, .number 1, .blank,
        .word "FROM", .blank, .word "jsonb_array_elements", .mark "("] ++ array.shape ++
      fixed [.mark ")", .blank, .word "AS", .blank, .word "elem", .mark "(", .word "value",
        .mark ")", .blank, .word "WHERE", .blank] ++ condition.shape ++ fixed [.mark ")"] := by
  simp [shape, pieces, shape_fixed]

@[simp] theorem shape_paren :
    (paren e).shape = fixed [.mark "("] ++ e.shape ++ fixed [.mark ")"] := by
  simp [shape, pieces, shape_fixed]

end Shape

end Expr

section Accessors

variable {root root' : Expr} {path path' : List String}

theorem shape_members (hroot : root.shape = root'.shape) (hpath : path.length = path'.length) :
    (path.foldl Expr.member root).shape = (path'.foldl Expr.member root').shape := by
  induction path generalizing root root' path' with
  | nil =>
    rw [List.length_nil, eq_comm, List.length_eq_zero_iff] at hpath
    rw [hpath]
    exact hroot
  | cons key path ih =>
    cases path' with
    | nil => cases hpath
    | cons key' path' =>
      have hmember : (root.member key).shape = (root'.member key').shape := by
        rw [Expr.shape_member, Expr.shape_member, hroot]
      rw [List.foldl_cons, List.foldl_cons]
      exact ih hmember (by simpa using hpath)

theorem shape_documentAt (hroot : root.shape = root'.shape) (hpath : path.length = path'.length) :
    (documentAt root path).shape = (documentAt root' path').shape := by
  have hmembers := shape_members hroot hpath
  cases path <;> cases path' <;> simp at hpath
  case nil.nil => exact hroot
  case cons.cons => simp only [documentAt, Expr.shape_paren, hmembers]

theorem shape_textChain (key key' : String) (hroot : root.shape = root'.shape)
    (hpath : path.length = path'.length) :
    (textChain root key path).shape = (textChain root' key' path').shape := by
  induction path generalizing root root' key key' path' with
  | nil =>
    rw [List.length_nil, eq_comm, List.length_eq_zero_iff] at hpath
    rw [hpath, textChain, textChain, Expr.shape_memberText, Expr.shape_memberText, hroot]
  | cons next path ih =>
    cases path' with
    | nil => cases hpath
    | cons next' path' =>
      have hmember : (root.member key).shape = (root'.member key').shape := by
        rw [Expr.shape_member, Expr.shape_member, hroot]
      exact ih next next' hmember (by simpa using hpath)

theorem shape_textAt (hroot : root.shape = root'.shape) (hpath : path.length = path'.length) :
    (textAt root path).shape = (textAt root' path').shape := by
  cases path <;> cases path' <;> simp at hpath
  case nil.nil => simp only [textAt, Expr.shape_paren, Expr.shape_wholeText, hroot]
  case cons.cons key path key' path' =>
    simp only [textAt, Expr.shape_paren, shape_textChain key key' hroot hpath]

end Accessors

section Tests

variable {root root' : Expr} {path path' : List String}

theorem shape_columnTest (column column' : String) (c : Condition) (first : Nat) :
    (columnTest column c first).shape = (columnTest column' c first).shape := by
  cases c with
  | comparison op o => simp [columnTest]
  | membership negated items => cases items <;> cases negated <;> simp [columnTest]
  | textual test o => cases test <;> simp [columnTest]
  | nullness negated => simp [columnTest]

theorem shape_numberAt (hroot : root.shape = root'.shape) (hpath : path.length = path'.length) :
    (numberAt root path).shape = (numberAt root' path').shape := by
  simp [numberAt, shape_documentAt hroot hpath, shape_textAt hroot hpath]

theorem shape_documentTest (hroot : root.shape = root'.shape)
    (hpath : path.length = path'.length) (c : Condition) (first : Nat) :
    (documentTest root path c first).shape = (documentTest root' path' c first).shape := by
  have hdocument := shape_documentAt hroot hpath
  have htext := shape_textAt hroot hpath
  have hnumber := shape_numberAt hroot hpath
  cases c with
  | comparison op o =>
    rw [documentTest, documentTest]
    cases o.scalar.isNumeric <;> cases op <;>
      simp [documentComparison, Comparison.isOrdering, both, either, hdocument, htext, hnumber]
  | membership negated items =>
    rw [documentTest, documentTest]
    generalize paramsFrom first (numericItems items).length (some .numeric) = numbers
    generalize paramsFrom (first + (numericItems items).length) (otherItems items).length none =
      texts
    cases negated <;> cases numbers <;> cases texts <;>
      simp [documentAmong, documentNotAmong, both, either, htext, hnumber]
  | textual test o => cases test <;> simp [documentTest, hdocument, htext]
  | nullness negated => cases negated <;> simp [documentTest, either, hdocument]

theorem shape_arrayTest (column column' : String) (hpath : path.length = path'.length)
    (c : Condition) (first : Nat) :
    (arrayTest (.column column) path c first).shape =
      (arrayTest (.column column') path' c first).shape := by
  have htest : (documentTest .element path c first).shape =
      (documentTest .element path' c first).shape := shape_documentTest rfl hpath c first
  unfold arrayTest
  split <;> simp [arrayOf, holdsArray, either, htest]

end Tests

/-- The leaves look at columns of one kind, equally deep, and ask the same of what is there. -/
structure LeafRenamed (catalog catalog' : Catalog) (a b : Leaf) : Prop where
  kind : (targetOf catalog a).kind = (targetOf catalog' b).kind
  depth : (targetOf catalog a).path.length = (targetOf catalog' b).path.length
  condition : a.condition = b.condition

/-- The predicates differ in the names that their leaves look at. -/
def Renamed (catalog catalog' : Catalog) : Predicate → Predicate → Prop :=
  Predicate.Corresponds (LeafRenamed catalog catalog')

section Predicates

variable {catalog catalog' : Catalog}

theorem arguments_leafRenamed {a b : Leaf} (h : LeafRenamed catalog catalog' a b) :
    leafArguments catalog a = leafArguments catalog' b := by
  rw [leafArguments, leafArguments, h.kind, h.condition]

theorem shape_leafTest {a b : Leaf} (h : LeafRenamed catalog catalog' a b) (first : Nat) :
    (leafTest catalog a first).shape = (leafTest catalog' b first).shape := by
  have hplain := shape_columnTest (targetOf catalog a).column (targetOf catalog' b).column
    b.condition first
  have hcolumn : (Expr.column (targetOf catalog a).column).shape =
      (Expr.column (targetOf catalog' b).column).shape := by
    rw [Expr.shape_column, Expr.shape_column]
  have hdocument := shape_documentTest hcolumn h.depth b.condition first
  have harray := shape_arrayTest (targetOf catalog a).column (targetOf catalog' b).column h.depth
    b.condition first
  have hcondition := h.condition
  cases hkind : (targetOf catalog' b).kind with
  | none => simp only [leafTest, h.kind, hkind, hcondition, hplain]
  | some kind =>
    cases kind <;> simp [leafTest, h.kind, hkind, hcondition, hdocument, harray, holdsArray]

theorem congruence_shape : Congruence Expr.shape where
  paren h := by rw [Expr.shape_paren, Expr.shape_paren, h]
  junction c h h' := by rw [Expr.shape_junction, Expr.shape_junction, h, h']

theorem simulates_renamed :
    Simulates catalog catalog' (LeafRenamed catalog catalog') Expr.shape where
  arguments h := congrArg List.length (arguments_leafRenamed h)
  test h first := shape_leafTest h first

/-- Other names change the names in the condition and nothing else. -/
theorem shape_test {p q : Predicate} (first : Nat) (h : Renamed catalog catalog' p q) :
    (test catalog first p).shape = (test catalog' first q).shape :=
  test_corresponds congruence_shape simulates_renamed first h

end Predicates

/-- The pieces of a text, in which the names are those that the leaves refer to, one leaf after the
other. -/
structure Spells (catalog : Catalog) (p : Predicate) (sql : String) (ps : List Piece) : Prop where
  lexed : ∃ ts, lex sql = some ts ∧ List.Forall₂ Piece.IsReadFrom ps ts
  refers : Refers (p.leaves.flatMap (references catalog)) ps

theorem spells_test (catalog : Catalog) (p : Predicate) (first : Nat) :
    Spells catalog p (test catalog first p).text (test catalog first p).pieces where
  lexed := lex_pieces _
  refers := names_test catalog p first

/-- Names of columns and keys of paths, whatever characters they consist of, each stay within one
token of the text, and other names in their places change nothing but those tokens. A bare name is
the same token as a key word would be. -/
theorem compileFrom_names (catalog : Catalog) (p : Predicate) {first : Nat} (hfirst : 1 ≤ first) :
    ∃ c, compileFrom? catalog p first = .ok c ∧
      Spells catalog p c.sql (test catalog first p).pieces ∧
      ∀ catalog' q, Renamed catalog catalog' p q →
        ∃ d, compileFrom? catalog' q first = .ok d ∧
          Spells catalog' q d.sql (test catalog' first q).pieces ∧
          (test catalog' first q).shape = (test catalog first p).shape := by
  have hne : first ≠ 0 := by omega
  refine ⟨compileFrom catalog p first, if_neg hne, spells_test catalog p first,
    fun catalog' q h => ?_⟩
  exact ⟨compileFrom catalog' q first, if_neg hne, spells_test catalog' q first,
    (shape_test first h).symm⟩

/-- The leaf `tier.it's -- $1.") CONTAINS "x"`. -/
def oddLeaf : Leaf where
  field := ⟨"tier.it\x27s -- $1.\")", by decide +kernel⟩
  condition := .textual .contains ⟨.text "x", rfl⟩

/-- The column is asked for its kind and its content, then each element is looked at once. -/
example :
    references ((Catalog.empty.withMapping "tier" "a\"b").withDocument "a\"b" .arrayOfObjects)
        oddLeaf =
      [⟨some "a\"b", []⟩, ⟨some "a\"b", []⟩, ⟨none, ["it\x27s -- $1", "\")"]⟩] := by
  decide +kernel

/-- The leaf `tags.name.first CONTAINS "x"`. -/
def tagsLeaf : Leaf where
  field := ⟨"tags.name.first", by decide +kernel⟩
  condition := .textual .contains ⟨.text "x", rfl⟩

theorem compileFrom_names_odd :
    let catalog := (Catalog.empty.withMapping "tier" "a\"b").withDocument "a\"b" .arrayOfObjects
    let catalog' := Catalog.empty.withDocument "tags" .arrayOfObjects
    Renamed catalog catalog' (.leaf oddLeaf) (.leaf tagsLeaf) ∧ 1 ≤ 3 ∧
      ∃ c d, compileFrom? catalog (.leaf oddLeaf) 3 = .ok c ∧
        compileFrom? catalog' (.leaf tagsLeaf) 3 = .ok d ∧
        Spells catalog (.leaf oddLeaf) c.sql (test catalog 3 (.leaf oddLeaf)).pieces ∧
        Spells catalog' (.leaf tagsLeaf) d.sql (test catalog' 3 (.leaf tagsLeaf)).pieces ∧
        (test catalog' 3 (.leaf tagsLeaf)).shape = (test catalog 3 (.leaf oddLeaf)).shape := by
  intro catalog catalog'
  have hrenamed : Renamed catalog catalog' (.leaf oddLeaf) (.leaf tagsLeaf) :=
    .leaf ⟨by decide +kernel, by decide +kernel, rfl⟩
  obtain ⟨c, hc, hspells, hothers⟩ :=
    compileFrom_names catalog (.leaf oddLeaf) (show 1 ≤ 3 by decide)
  obtain ⟨d, hd, hspells', hshape⟩ := hothers catalog' (.leaf tagsLeaf) hrenamed
  exact ⟨hrenamed, by decide, c, d, hc, hd, hspells, hspells', hshape⟩

end Sql
end Sieve
