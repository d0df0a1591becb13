import Sieve.Proofs.Sql.ExprTokens
import Sieve.Sql.Compile

/-!
# Sieve.Proofs.Sql.Placeholders

The placeholders of expressions and of compiled leaves. A leaf has as many as it binds arguments,
numbered one after the other; a leaf on a column of unknown shape has them twice, once for each
shape.

* `params_leafTest`: the placeholders of a leaf.
* `shift_leafTest`: its first number moves all the others and nothing else.
-/

namespace Sieve
namespace Sql

namespace Expr

/-- The placeholders of an expression, from left to right. -/
@[simp] def params : Expr → List Nat
  | .truth _ => []
  | .column _ => []
  | .element => []
  | .param p => [p.index]
  | .string _ => []
  | .member doc _ => doc.params
  | .memberText doc _ => doc.params
  | .wholeText doc => doc.params
  | .kind doc => doc.params
  | .cast e _ => e.params
  | .bytewise e => e.params
  | .compare _ a b => a.params ++ b.params
  | .isNull _ e => e.params
  | .distinct a b => a.params ++ b.params
  | .like _ e pattern => e.params ++ pattern.params
  | .among _ e items => e.params ++ items.map Param.index
  | .includes a b => a.params ++ b.params
  | .junction _ a b => a.params ++ b.params
  | .choose condition yes no => condition.params ++ yes.params ++ no.params
  | .whenever condition yes => condition.params ++ yes.params
  | .someElement array condition => array.params ++ condition.params
  | .paren e => e.params

/-- Every placeholder moved up. -/
@[simp] def shift (d : Nat) : Expr → Expr
  | .truth b => .truth b
  | .column name => .column name
  | .element => .element
  | .param p => .param ⟨p.index + d, p.type⟩
  | .string s => .string s
  | .member doc key => .member (doc.shift d) key
  | .memberText doc key => .memberText (doc.shift d) key
  | .wholeText doc => .wholeText (doc.shift d)
  | .kind doc => .kind (doc.shift d)
  | .cast e type => .cast (e.shift d) type
  | .bytewise e => .bytewise (e.shift d)
  | .compare op a b => .compare op (a.shift d) (b.shift d)
  | .isNull negated e => .isNull negated (e.shift d)
  | .distinct a b => .distinct (a.shift d) (b.shift d)
  | .like negated e pattern => .like negated (e.shift d) (pattern.shift d)
  | .among negated e items => .among negated (e.shift d) (items.map fun p => ⟨p.index + d, p.type⟩)
  | .includes a b => .includes (a.shift d) (b.shift d)
  | .junction c a b => .junction c (a.shift d) (b.shift d)
  | .choose condition yes no => .choose (condition.shift d) (yes.shift d) (no.shift d)
  | .whenever condition yes => .whenever (condition.shift d) (yes.shift d)
  | .someElement array condition => .someElement (array.shift d) (condition.shift d)
  | .paren e => .paren (e.shift d)

end Expr

/-- A placeholder moved up; any other token stays. -/
def Token.shift (d : Nat) : Token → Token
  | .param index => .param (index + d)
  | t => t

section Tokens

variable (ts us : List Token)

@[simp] theorem paramsOf_nil : paramsOf [] = [] := rfl

@[simp] theorem paramsOf_append : paramsOf (ts ++ us) = paramsOf ts ++ paramsOf us :=
  List.filterMap_append

@[simp] theorem paramsOf_param (k : Nat) : paramsOf (.param k :: ts) = k :: paramsOf ts := rfl

@[simp] theorem paramsOf_word (s : String) : paramsOf (.word s :: ts) = paramsOf ts := rfl

@[simp] theorem paramsOf_quoted (s : String) : paramsOf (.quoted s :: ts) = paramsOf ts := rfl

@[simp] theorem paramsOf_string (s : String) : paramsOf (.string s :: ts) = paramsOf ts := rfl

@[simp] theorem paramsOf_number (n : Nat) : paramsOf (.number n :: ts) = paramsOf ts := rfl

@[simp] theorem paramsOf_mark (s : String) : paramsOf (.mark s :: ts) = paramsOf ts := rfl

@[simp] theorem paramsOf_blank : paramsOf (.blank :: ts) = paramsOf ts := rfl

@[simp] theorem paramsOf_inParens : paramsOf (inParens ts) = paramsOf ts := by
  simp [inParens]

@[simp] theorem paramsOf_named (name : String) : paramsOf [.named name] = [] := by
  unfold Token.named
  split <;> rfl

@[simp] theorem paramsOf_negatable (negated : Bool) (word : String) :
    paramsOf (negatable negated word) = [] := by
  cases negated <;> rfl

@[simp] theorem paramsOf_words (ss : List String) : paramsOf (words ss) = [] := by
  induction ss with
  | nil => rfl
  | cons s ss ih =>
    cases ss with
    | nil => rfl
    | cons u ss => simp [words, ih]

theorem paramsOf_listed (items : List (List Token)) :
    paramsOf (listed items) = items.flatMap paramsOf := by
  induction items with
  | nil => rfl
  | cons ts items ih =>
    cases items with
    | nil => simp [listed]
    | cons us items => simp [listed, ih]

@[simp] theorem paramsOf_paramTokens (p : Param) : paramsOf p.tokens = [p.index] := by
  unfold Param.tokens
  cases p.type <;> rfl

@[simp] theorem paramsOf_params (items : List Param) :
    paramsOf (listed (items.map Param.tokens)) = items.map Param.index := by
  rw [paramsOf_listed, List.flatMap_map]
  induction items with
  | nil => rfl
  | cons p items ih =>
    rw [List.flatMap_cons, ih, paramsOf_paramTokens]
    rfl

theorem paramsOf_tokens (e : Expr) : paramsOf e.tokens = e.params := by
  induction e with
  | param p => exact paramsOf_paramTokens p
  | _ => simp [Expr.tokens, Expr.params, *]

end Tokens

section Shift

variable {d : Nat}

@[simp] theorem shift_named (name : String) :
    Token.shift d (Token.named name) = Token.named name := by
  unfold Token.named
  split <;> rfl

@[simp] theorem shift_inParens (ts : List Token) :
    (inParens ts).map (Token.shift d) = inParens (ts.map (Token.shift d)) := by
  simp [inParens, Token.shift]

@[simp] theorem shift_negatable (negated : Bool) (word : String) :
    (negatable negated word).map (Token.shift d) = negatable negated word := by
  cases negated <;> rfl

@[simp] theorem shift_words (ss : List String) :
    (words ss).map (Token.shift d) = words ss := by
  induction ss with
  | nil => rfl
  | cons s ss ih =>
    cases ss with
    | nil => rfl
    | cons u ss => simp [words, ih, Token.shift]

theorem shift_listed (items : List (List Token)) :
    (listed items).map (Token.shift d) = listed (items.map fun ts => ts.map (Token.shift d)) := by
  induction items with
  | nil => rfl
  | cons ts items ih =>
    cases items with
    | nil => simp [listed]
    | cons us items =>
      rw [List.map_cons] at ih
      simp [listed, ih, Token.shift]

theorem shift_paramTokens (p : Param) :
    p.tokens.map (Token.shift d) = Param.tokens ⟨p.index + d, p.type⟩ := by
  unfold Param.tokens
  cases p.type <;> rfl

theorem tokens_shift (e : Expr) : (e.shift d).tokens = e.tokens.map (Token.shift d) := by
  induction e with
  | column name => simp [Expr.tokens, Expr.shift]
  | param p => exact (shift_paramTokens p).symm
  | among negated e items ih =>
    have hitems : ∀ p : Param, p.tokens.map (Token.shift d) = Param.tokens ⟨p.index + d, p.type⟩ :=
      shift_paramTokens
    simp [Expr.tokens, Expr.shift, Token.shift, ih, shift_listed, hitems, Function.comp_def]
  | _ => simp [Expr.tokens, Expr.shift, Token.shift, *]

end Shift

/-! ## Leaves -/

section Leaf

variable {root : Expr} {path : List String} {d first : Nat}

theorem params_paramsFrom (first count : Nat) (type : Option SqlType) :
    (paramsFrom first count type).map Param.index = List.range' first count := by
  simp [paramsFrom, Function.comp_def]

theorem shift_paramsFrom (count : Nat) (type : Option SqlType) :
    ((paramsFrom first count type).map fun p => (⟨p.index + d, p.type⟩ : Param)) =
      paramsFrom (first + d) count type := by
  simp only [paramsFrom, List.map_map, Function.comp_def, Nat.add_comm first d]
  rw [← List.map_add_range', List.map_map]
  simp only [Function.comp_def, Nat.add_comm d]

theorem params_columnTest (column : String) (c : Condition) (first : Nat) :
    (columnTest column c first).params = List.range' first (columnArguments c).length := by
  cases c with
  | comparison op o => rfl
  | membership negated items =>
    cases items with
    | nil => cases negated <;> rfl
    | cons o items =>
      have h := params_paramsFrom first (o :: items).length none
      cases negated <;> simpa [columnTest, Expr.params, columnArguments] using h
  | textual test o => cases test <;> rfl
  | nullness negated => rfl

theorem shift_columnTest (column : String) (c : Condition) (d first : Nat) :
    (columnTest column c first).shift d = columnTest column c (first + d) := by
  cases c with
  | comparison op o => rfl
  | membership negated items =>
    cases items with
    | nil => cases negated <;> rfl
    | cons o items =>
      cases negated <;> simp [columnTest, Expr.shift, shift_paramsFrom]
  | textual test o => cases test <;> rfl
  | nullness negated => rfl

theorem params_foldl_member : (path.foldl Expr.member root).params = root.params := by
  induction path generalizing root with
  | nil => rfl
  | cons key path ih =>
    rw [List.foldl_cons, ih]
    rfl

theorem shift_foldl_member :
    (path.foldl Expr.member root).shift d = path.foldl Expr.member (root.shift d) := by
  induction path generalizing root with
  | nil => rfl
  | cons key path ih =>
    rw [List.foldl_cons, ih]
    rfl

theorem params_documentAt : (documentAt root path).params = root.params := by
  cases path with
  | nil => rfl
  | cons key path => exact params_foldl_member

theorem shift_documentAt : (documentAt root path).shift d = documentAt (root.shift d) path := by
  cases path with
  | nil => rfl
  | cons key path => exact congrArg Expr.paren shift_foldl_member

theorem params_textChain (key : String) : (textChain root key path).params = root.params := by
  induction path generalizing root key with
  | nil => rfl
  | cons next path ih =>
    rw [textChain, ih]
    rfl

theorem shift_textChain (key : String) :
    (textChain root key path).shift d = textChain (root.shift d) key path := by
  induction path generalizing root key with
  | nil => rfl
  | cons next path ih =>
    rw [textChain, ih]
    rfl

theorem params_textAt : (textAt root path).params = root.params := by
  cases path with
  | nil => rfl
  | cons key path => exact params_textChain key

theorem shift_textAt : (textAt root path).shift d = textAt (root.shift d) path := by
  cases path with
  | nil => rfl
  | cons key path => exact congrArg Expr.paren (shift_textChain key)

theorem params_numberAt (hroot : root.params = []) (path : List String) :
    (numberAt root path).params = [] := by
  simp [numberAt, Expr.params, params_documentAt, params_textAt, hroot]

theorem shift_numberAt : (numberAt root path).shift d = numberAt (root.shift d) path := by
  simp [numberAt, Expr.shift, shift_documentAt, shift_textAt]

/-- The expression mentions no placeholder. -/
def Still (root : Expr) : Prop := root.params = [] ∧ ∀ d, root.shift d = root

theorem params_documentComparison (hroot : Still root) (op : Comparison) (numeric : Bool) :
    (documentComparison root path op numeric first).params = [first] := by
  have hnumber := params_numberAt hroot.1 path
  have htext : (textAt root path).params = [] := by rw [params_textAt, hroot.1]
  have hdoc : (documentAt root path).params = [] := by rw [params_documentAt, hroot.1]
  cases numeric with
  | true =>
    cases op <;> simp [documentComparison, Expr.params, both, either, numberParam, hnumber, htext]
  | false =>
    cases op <;> simp [documentComparison, Comparison.isOrdering, Expr.params, both, textParam,
      htext, hdoc]

theorem shift_documentComparison (hroot : Still root) (op : Comparison) (numeric : Bool) :
    (documentComparison root path op numeric first).shift d =
      documentComparison root path op numeric (first + d) := by
  cases numeric with
  | true =>
    cases op <;> simp [documentComparison, Expr.shift, both, either, numberParam, shift_numberAt,
      shift_textAt, hroot.2]
  | false =>
    cases op <;> simp [documentComparison, Comparison.isOrdering, Expr.shift, both, textParam,
      shift_textAt, shift_documentAt, hroot.2]

section Among

variable (numbers texts : List Param)

theorem params_documentAmong (hroot : Still root) :
    (documentAmong root path numbers texts).params =
      numbers.map Param.index ++ texts.map Param.index := by
  have hnumber := params_numberAt hroot.1 path
  have htext : (textAt root path).params = [] := by rw [params_textAt, hroot.1]
  cases numbers <;> cases texts <;>
    simp [documentAmong, Expr.params, either, hnumber, htext]

theorem params_documentNotAmong (hroot : Still root) :
    (documentNotAmong root path numbers texts).params =
      numbers.map Param.index ++ texts.map Param.index := by
  have hnumber := params_numberAt hroot.1 path
  have htext : (textAt root path).params = [] := by rw [params_textAt, hroot.1]
  cases numbers <;> cases texts <;>
    simp [documentNotAmong, Expr.params, both, either, hnumber, htext]

theorem shift_documentAmong (hroot : Still root) :
    (documentAmong root path numbers texts).shift d =
      documentAmong root path (numbers.map fun p => ⟨p.index + d, p.type⟩)
        (texts.map fun p => ⟨p.index + d, p.type⟩) := by
  cases numbers <;> cases texts <;>
    simp [documentAmong, Expr.shift, either, shift_numberAt, shift_textAt, hroot.2]

theorem shift_documentNotAmong (hroot : Still root) :
    (documentNotAmong root path numbers texts).shift d =
      documentNotAmong root path (numbers.map fun p => ⟨p.index + d, p.type⟩)
        (texts.map fun p => ⟨p.index + d, p.type⟩) := by
  cases numbers <;> cases texts <;>
    simp [documentNotAmong, Expr.shift, both, either, shift_numberAt, shift_textAt, hroot.2]

end Among

theorem params_documentTest (hroot : Still root) (path : List String) (c : Condition)
    (first : Nat) :
    (documentTest root path c first).params = List.range' first (documentArguments c).length := by
  have htext : (textAt root path).params = [] := by rw [params_textAt, hroot.1]
  have hdoc : (documentAt root path).params = [] := by rw [params_documentAt, hroot.1]
  cases c with
  | comparison op o => exact params_documentComparison hroot op o.scalar.isNumeric
  | membership negated items =>
    have hrange : List.range' first ((numericItems items).length + (otherItems items).length) =
        List.range' first (numericItems items).length ++
          List.range' (first + (numericItems items).length) (otherItems items).length := by
      rw [List.range'_append_1]
    cases negated <;> simp only [documentTest, Bool.false_eq_true, if_false, if_true,
      params_documentAmong _ _ hroot, params_documentNotAmong _ _ hroot, params_paramsFrom,
      documentArguments, List.length_map, List.length_append, hrange]
  | textual test o =>
    cases test <;> simp [documentTest, Expr.params, textParam, htext, hdoc, documentArguments]
  | nullness negated =>
    cases negated <;> simp [documentTest, Expr.params, either, hdoc, documentArguments]

theorem shift_documentTest (hroot : Still root) (path : List String) (c : Condition)
    (d first : Nat) :
    (documentTest root path c first).shift d = documentTest root path c (first + d) := by
  cases c with
  | comparison op o => exact shift_documentComparison hroot op o.scalar.isNumeric
  | membership negated items =>
    have hnext : first + (numericItems items).length + d =
        first + d + (numericItems items).length := by
      omega
    cases negated <;> simp only [documentTest, Bool.false_eq_true, if_false, if_true,
      shift_documentAmong _ _ hroot, shift_documentNotAmong _ _ hroot, shift_paramsFrom, hnext]
  | textual test o =>
    cases test <;> simp [documentTest, Expr.shift, textParam, shift_textAt, shift_documentAt,
      hroot.2]
  | nullness negated =>
    cases negated <;> simp [documentTest, Expr.shift, either, shift_documentAt, hroot.2]

theorem still_column (column : String) : Still (.column column) := ⟨rfl, fun _ => rfl⟩

theorem still_element : Still .element := ⟨rfl, fun _ => rfl⟩

theorem params_arrayTest (column : String) (path : List String) (c : Condition) (first : Nat) :
    (arrayTest (.column column) path c first).params =
      List.range' first (documentArguments c).length := by
  have htest := params_documentTest still_element path c first
  cases c with
  | nullness negated =>
    cases negated <;>
      simpa [arrayTest, arrayOf, holdsArray, Expr.params, either, documentArguments] using htest
  | _ => simpa [arrayTest, arrayOf, holdsArray, Expr.params] using htest

theorem shift_arrayTest (column : String) (path : List String) (c : Condition) (d first : Nat) :
    (arrayTest (.column column) path c first).shift d =
      arrayTest (.column column) path c (first + d) := by
  have htest := shift_documentTest still_element path c d first
  cases c with
  | nullness negated =>
    cases negated <;> simp [arrayTest, arrayOf, holdsArray, Expr.shift, either, htest]
  | _ => simp [arrayTest, arrayOf, holdsArray, Expr.shift, htest]

/-- A leaf on a column of unknown shape. -/
def isTwofold (catalog : Catalog) (l : Leaf) : Bool := (targetOf catalog l).kind == some .unknown

/-- The placeholders of a leaf whose first one has the given number. -/
def leafPlaceholders (catalog : Catalog) (first : Nat) (l : Leaf) : List Nat :=
  let numbers := List.range' first (leafArguments catalog l).length
  if isTwofold catalog l then numbers ++ numbers else numbers

variable (catalog : Catalog)

theorem params_leafTest (l : Leaf) :
    (leafTest catalog l first).params = leafPlaceholders catalog first l := by
  have hcolumn := params_columnTest (targetOf catalog l).column l.condition first
  have hdocument := params_documentTest (still_column (targetOf catalog l).column)
    (targetOf catalog l).path l.condition first
  have harray := params_arrayTest (targetOf catalog l).column (targetOf catalog l).path
    l.condition first
  cases hkind : (targetOf catalog l).kind with
  | none => simp [leafTest, leafPlaceholders, leafArguments, isTwofold, hkind, hcolumn]
  | some kind =>
    cases kind <;> simp [leafTest, leafPlaceholders, leafArguments, isTwofold, hkind, holdsArray,
      hdocument, harray]

theorem shift_leafTest (l : Leaf) :
    (leafTest catalog l first).shift d = leafTest catalog l (first + d) := by
  have hcolumn := shift_columnTest (targetOf catalog l).column l.condition d first
  have hdocument := shift_documentTest (still_column (targetOf catalog l).column)
    (targetOf catalog l).path l.condition d first
  have harray := shift_arrayTest (targetOf catalog l).column (targetOf catalog l).path
    l.condition d first
  cases hkind : (targetOf catalog l).kind with
  | none => simp [leafTest, hkind, hcolumn]
  | some kind => cases kind <;> simp [leafTest, hkind, holdsArray, hdocument, harray]

end Leaf

end Sql
end Sieve
