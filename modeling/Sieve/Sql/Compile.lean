import Sieve.Predicate
import Sieve.Sql.Argument
import Sieve.Sql.Catalog
import Sieve.Sql.Expr
import Sieve.Text.Lower

/-!
# Sieve.Sql.Compile

Predicates as SQL conditions with bound arguments. A value never enters the text: every operand is
an argument, and the placeholders are numbered from left to right across the predicate.

* `columnArguments`, `documentArguments`: what a condition binds.
* `columnTest`, `documentTest`, `arrayTest`: the condition as a test of a plain column, of the
  document at the end of a path, of some element of an array.
* `compile`: the whole predicate, numbered from a given placeholder.
-/

namespace Sieve
namespace Sql

/-! ## Operands -/

/-- The pattern that a textual test looks for. -/
def patternOf (test : TextTest) (s : Scalar) : String :=
  let escaped := likeEscaped s.asText
  match test with
  | .startsWith => escaped ++ "%"
  | .endsWith => "%" ++ escaped
  | _ => "%" ++ escaped ++ "%"

def columnArguments : Condition → List Argument
  | .comparison _ o => [.ofScalar o.scalar]
  | .membership _ items => items.map fun o => .ofScalar o.scalar
  | .textual test o => [.text (patternOf test o.scalar)]
  | .nullness _ => []

def numericItems (items : List Operand) : List Operand := items.filter fun o => o.scalar.isNumeric

def otherItems (items : List Operand) : List Operand := items.filter fun o => !o.scalar.isNumeric

/-- A scalar as it is compared with the text of a document or with its number. -/
def documentArgument (s : Scalar) : Argument := if s.isNumeric then .ofScalar s else .text s.asText

/-- Numeric items of a list come first: they are compared as numbers. -/
def documentArguments : Condition → List Argument
  | .comparison _ o => [documentArgument o.scalar]
  | .membership _ items =>
    (numericItems items ++ otherItems items).map fun o => documentArgument o.scalar
  | .textual .contains o => [.json o.scalar.toJson]
  | .textual test o => [.text (patternOf test o.scalar)]
  | .nullness _ => []

/-- So many placeholders, numbered from the first one. -/
def paramsFrom (first count : Nat) (type : Option SqlType) : List Param :=
  (List.range' first count).map fun index => ⟨index, type⟩

def textParam (index : Nat) : Expr := .param ⟨index, none⟩

def numberParam (index : Nat) : Expr := .param ⟨index, some .numeric⟩

/-! ## Plain columns -/

def columnTest (column : String) (c : Condition) (first : Nat) : Expr :=
  let e := Expr.column column
  match c with
  | .comparison op _ => .compare op e (textParam first)
  | .membership false [] => .truth false
  | .membership true [] => .isNull true e
  | .membership negated items => .among negated e (paramsFrom first items.length none)
  | .textual .notLike _ => .like true (.cast e .text) (textParam first)
  | .textual _ _ => .like false (.cast e .text) (textParam first)
  | .nullness negated => .isNull negated e

/-! ## Documents -/

/-- The document at the end of a path. -/
def documentAt (root : Expr) (path : List String) : Expr :=
  match path with
  | [] => root
  | _ => .paren (path.foldl .member root)

def textChain (root : Expr) (key : String) : List String → Expr
  | [] => .memberText root key
  | next :: more => textChain (.member root key) next more

/-- The text of the document at the end of a path. -/
def textAt (root : Expr) : List String → Expr
  | [] => .paren (.wholeText root)
  | key :: more => .paren (textChain root key more)

/-- The number at the end of a path; a text that looks like a number is none. -/
def numberAt (root : Expr) (path : List String) : Expr :=
  .paren (.whenever (.compare .eq (.kind (documentAt root path)) (.string "number"))
    (.cast (textAt root path) .numeric))

def both (a b : Expr) : Expr := .junction .and a b

def either (a b : Expr) : Expr := .junction .or a b

/-- One of the given numbers or one of the given texts stands at the end of a path. -/
def documentAmong (root : Expr) (path : List String) (numbers texts : List Param) : Expr :=
  let number := Expr.among false (numberAt root path) numbers
  let text := Expr.among false (textAt root path) texts
  match numbers, texts with
  | [], [] => .truth false
  | _, [] => number
  | [], _ => text
  | _, _ => .paren (either number text)

/-- Something other than the given numbers and texts stands at the end of a path. -/
def documentNotAmong (root : Expr) (path : List String) (numbers texts : List Param) : Expr :=
  let present := Expr.isNull true (textAt root path)
  let number :=
    Expr.paren (either (.isNull false (numberAt root path))
      (.among true (numberAt root path) numbers))
  let text := Expr.among true (textAt root path) texts
  match numbers, texts with
  | [], [] => present
  | _, [] => .paren (both present number)
  | [], _ => .paren (both present text)
  | _, _ => .paren (both (both present number) text)

def documentComparison (root : Expr) (path : List String) (op : Comparison) (numeric : Bool)
    (first : Nat) : Expr :=
  if numeric then
    match op with
    | .ne =>
      .paren (both (.isNull true (textAt root path))
        (.paren (either (.isNull false (numberAt root path))
          (.compare .ne (numberAt root path) (numberParam first)))))
    | _ => .compare op (numberAt root path) (numberParam first)
  else if op.isOrdering then
    .paren (both (.compare .ne (.kind (documentAt root path)) (.string "number"))
      (.compare op (.bytewise (textAt root path)) (textParam first)))
  else .compare op (textAt root path) (textParam first)

def documentTest (root : Expr) (path : List String) (c : Condition) (first : Nat) : Expr :=
  match c with
  | .comparison op o => documentComparison root path op o.scalar.isNumeric first
  | .membership negated items =>
    let count := (numericItems items).length
    let numbers := paramsFrom first count (some .numeric)
    let texts := paramsFrom (first + count) (otherItems items).length none
    if negated then documentNotAmong root path numbers texts
    else documentAmong root path numbers texts
  | .textual .contains _ => .includes (documentAt root path) (.param ⟨first, some .jsonb⟩)
  | .textual .notLike _ => .like true (textAt root path) (textParam first)
  | .textual _ _ => .like false (textAt root path) (textParam first)
  | .nullness false =>
    .paren (either (.isNull false (documentAt root path))
      (.compare .eq (.kind (documentAt root path)) (.string "null")))
  | .nullness true => .compare .ne (.kind (documentAt root path)) (.string "null")

/-- A column holds an array. -/
def holdsArray (column : Expr) : Expr := .compare .eq (.kind column) (.string "array")

/-- The array of a column, empty if the column holds none. -/
def arrayOf (column : Expr) : Expr :=
  .choose (holdsArray column) column (.cast (.string "[]") .jsonb)

def arrayTest (column : Expr) (path : List String) (c : Condition) (first : Nat) : Expr :=
  let some := Expr.someElement (arrayOf column) (documentTest .element path c first)
  match c with
  | .nullness false => .paren (either (.distinct (.kind column) (.string "array")) some)
  | _ => some

/-! ## Predicates -/

/-- What a leaf looks at. -/
structure Target where
  column : String
  kind : Option DocumentKind
  path : List String

/-- The column that a leaf means, and the path inside it, in lower case. A path means a document
even in a column that is not known to hold any. -/
def targetOf (catalog : Catalog) (l : Leaf) : Target :=
  let column := catalog.columnFor l.field.root
  let path := l.field.nested.map Text.lower
  let kind := (catalog.kind? column).or (if path.isEmpty then none else some .scalar)
  ⟨column, kind, path⟩

def leafArguments (catalog : Catalog) (l : Leaf) : List Argument :=
  match (targetOf catalog l).kind with
  | none => columnArguments l.condition
  | some _ => documentArguments l.condition

def leafTest (catalog : Catalog) (l : Leaf) (first : Nat) : Expr :=
  let target := targetOf catalog l
  let column := Expr.column target.column
  match target.kind with
  | none => columnTest target.column l.condition first
  | some .scalar => documentTest column target.path l.condition first
  | some .unknown =>
    .paren (.choose (holdsArray column) (arrayTest column target.path l.condition first)
      (documentTest column target.path l.condition first))
  | some _ => arrayTest column target.path l.condition first

mutual

/-- What the leaves of a predicate bind, from left to right. -/
def arguments (catalog : Catalog) : Predicate → List Argument
  | .matchAll => []
  | .leaf l => leafArguments catalog l
  | .compound _ children => argumentsOf catalog children

def argumentsOf (catalog : Catalog) : List Predicate → List Argument
  | [] => []
  | p :: ps => arguments catalog p ++ argumentsOf catalog ps

end

mutual

/-- The condition of a predicate whose first argument has the given number. -/
def test (catalog : Catalog) (first : Nat) : Predicate → Expr
  | .matchAll => .truth true
  | .leaf l => leafTest catalog l first
  | .compound _ [] => .truth true
  | .compound _ [p] => test catalog first p
  | .compound c (p :: ps) =>
    testAfter catalog c (.paren (test catalog first p))
      (first + (arguments catalog p).length) ps

/-- Joins the conditions of further children to a condition. -/
def testAfter (catalog : Catalog) (c : Conjunction) (before : Expr) (first : Nat) :
    List Predicate → Expr
  | [] => before
  | p :: ps =>
    testAfter catalog c (.junction c before (.paren (test catalog first p)))
      (first + (arguments catalog p).length) ps

end

/-- A condition and the arguments of its placeholders. -/
structure Compiled where
  condition : Expr
  arguments : List Argument

namespace Compiled

def matchAll : Compiled where
  condition := .truth true
  arguments := []

def sql (c : Compiled) : String := c.condition.text

end Compiled

/-- A line for every argument, with the number of its placeholder. -/
def describeArguments (first : Nat) : List Argument → String
  | [] => ""
  | a :: as =>
    "\n$" ++ toString first ++ " = " ++ a.describe ++ describeArguments (first + 1) as

/-- The text of a condition, then a line for every argument. -/
def describe (sql : String) (arguments : List Argument) (first : Nat) : String :=
  sql ++ describeArguments first arguments

/-- Placeholders have the numbers from 1. -/
inductive NumberingFault where
  | fromZero

def NumberingFault.message : NumberingFault → String
  | .fromZero => "placeholders are numbered from 1"

/-- The predicate as a condition, its placeholders numbered from `first`. -/
def compileFrom (catalog : Catalog) (p : Predicate) (first : Nat) : Compiled where
  condition := test catalog first p
  arguments := arguments catalog p

def compileFrom? (catalog : Catalog) (p : Predicate) (first : Nat) :
    Except NumberingFault Compiled :=
  if first = 0 then .error .fromZero else .ok (compileFrom catalog p first)

def compile (catalog : Catalog) (p : Predicate) : Compiled := compileFrom catalog p 1

end Sql
end Sieve
