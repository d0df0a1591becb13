import Sieve.Text.Ascii
import Sieve.Text.Blank

/-!
# Sieve.Operator

The operators of predicates, by what they ask of their operand, and the conjunctions that join
predicates.

* `Operator.token` is the name on the wire, `Operator.keyword` the written form in expressions.
* `Operator.read?` reads either in any case and spacing: `read?_token` and `read?_keyword`.
-/

namespace Sieve

inductive Comparison where
  | eq
  | ne
  | gt
  | ge
  | lt
  | le
  deriving DecidableEq, Repr

inductive TextTest where
  | like
  | notLike
  | contains
  | startsWith
  | endsWith
  deriving DecidableEq, Repr

inductive Operator where
  | comparison (op : Comparison)
  | membership (negated : Bool)
  | textual (test : TextTest)
  | nullness (negated : Bool)
  deriving DecidableEq, Repr

namespace Comparison

def isOrdering : Comparison → Bool
  | .eq => false
  | .ne => false
  | _ => true

/-- Whether operands satisfy the comparison, told whether they are equal and how they are ordered.
The two are asked apart: values of different kinds can have equal texts and still differ. -/
def holds (op : Comparison) (equal : Bool) (order : Option Ordering) : Bool :=
  match op with
  | .eq => equal
  | .ne => !equal
  | .gt => order == some .gt
  | .ge => order == some .gt || order == some .eq
  | .lt => order == some .lt
  | .le => order == some .lt || order == some .eq

end Comparison

namespace Operator

/-- Every operator, in the order of documentation. -/
def all : List Operator :=
  [.comparison .eq, .comparison .ne, .comparison .gt, .comparison .ge, .comparison .lt,
    .comparison .le, .membership false, .membership true, .textual .like, .textual .notLike,
    .textual .contains, .textual .startsWith, .textual .endsWith, .nullness false, .nullness true]

def token : Operator → String
  | .comparison .eq => "="
  | .comparison .ne => "!="
  | .comparison .gt => ">"
  | .comparison .ge => ">="
  | .comparison .lt => "<"
  | .comparison .le => "<="
  | .membership false => "IN"
  | .membership true => "NOT_IN"
  | .textual .like => "LIKE"
  | .textual .notLike => "NOT_LIKE"
  | .textual .contains => "CONTAINS"
  | .textual .startsWith => "STARTS_WITH"
  | .textual .endsWith => "ENDS_WITH"
  | .nullness false => "IS_NULL"
  | .nullness true => "IS_NOT_NULL"

/-- The written form in expressions. -/
def keyword : Operator → String
  | .membership true => "NOT IN"
  | .textual .notLike => "NOT LIKE"
  | .nullness false => "IS NULL"
  | .nullness true => "IS NOT NULL"
  | op => op.token

def isNullness : Operator → Bool
  | .nullness _ => true
  | _ => false

def isMembership : Operator → Bool
  | .membership _ => true
  | _ => false

def isOrdering : Operator → Bool
  | .comparison op => op.isOrdering
  | _ => false

def isTextual : Operator → Bool
  | .textual _ => true
  | _ => false

/-- The operator with a token. -/
def ofToken? (token : List Char) : Option Operator := all.find? fun op => op.token.toList == token

/-- A name in any case of ASCII letters, its words joined by low lines. -/
def read? (s : String) : Option Operator :=
  ofToken? ((['_'].intercalate (Text.words s)).map Char.toUpper)

theorem mem_all (op : Operator) : op ∈ all := by
  rcases op with (_ | _ | _ | _ | _ | _) | (_ | _) | (_ | _ | _ | _ | _) | (_ | _) <;> decide

theorem read?_token (op : Operator) : read? op.token = some op := by
  have h : ∀ op ∈ all, read? op.token = some op := by decide +kernel
  exact h op (mem_all op)

theorem read?_keyword (op : Operator) : read? op.keyword = some op := by
  have h : ∀ op ∈ all, read? op.keyword = some op := by decide +kernel
  exact h op (mem_all op)

end Operator

inductive Conjunction where
  | and
  | or
  deriving DecidableEq, Repr

namespace Conjunction

def token : Conjunction → String
  | .and => "AND"
  | .or => "OR"

/-- A name in any case of ASCII letters, blanks around it aside. -/
def read? (s : String) : Option Conjunction :=
  let name := Text.trim s
  if Text.sameIgnoringCase name "and" then some .and
  else if Text.sameIgnoringCase name "or" then some .or
  else none

end Conjunction

end Sieve
