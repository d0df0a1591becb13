import Mathlib
import Sieve.Json.Reader
import Sieve.Proofs.Number.Significant
import Sieve.Proofs.Number.Text
import Sieve.Proofs.Sql.Truth
import Sieve.Proofs.Value.Exact
import Sieve.Sql.Argument
import Sieve.Sql.Expr

/-!
# Sieve.Proofs.Sql.Datum

The values that SQL expressions yield, with the operations on single values: comparison, casts, and
the text and the kind of a document. What the documentation of the database leaves open, or leaves
to its set-up, is collected in an `Engine`.

* `Datum.numberOfText_textOfJson`: a number in a document is cast to itself by way of its text.
-/

namespace Sieve

namespace Json

/-- The name of the kind of a document. -/
def kindName : Json → String
  | .null => "null"
  | .bool _ => "boolean"
  | .integer _ => "number"
  | .decimal _ => "number"
  | .text _ => "string"
  | .array _ => "array"
  | .object _ => "object"

/-- The exact number that a number in a document is. -/
def number? : Json → Option ℚ
  | .integer n => some n.val
  | .decimal x => some (x.written numberLayout.tie)
  | _ => none

/-- A stored number keeps the digits it was sent with, but is never written with an exponent. -/
def storedLayout (d : Decimal) : Layout where
  plain := none
  point := decide ((Layout.significant d).2 < 16)
  plus := false
  tie := numberLayout.tie

/-- The text of a stored number; no zero is negative. -/
def storedText (x : Finite) : String :=
  let d := Decimal.shortest numberLayout.tie x
  String.ofList ((storedLayout d).write (x.negative && x.units != 0) d)

end Json

namespace Sql

inductive Datum where
  | bool (b : Bool)
  | integer (n : Int)
  | numeric (q : ℚ)
  | double (x : Binary64)
  | text (s : String)
  | json (j : Json)

/-- What is left to the database. -/
structure Engine where
  /-- The order of texts that a comparison without a collation uses. -/
  collate : String → String → Ordering
  /-- The number that a finite binary64 number is cast to. -/
  numeric : Finite → ℚ
  /-- The text of a number other than an integer and of a document other than a scalar. -/
  render : Datum → String
  /-- Whether the first document has everything that the second one has. -/
  includes : Json → Json → Bool

namespace Engine

/-- The number that a scalar is cast to when it is bound as an argument. -/
def number? (engine : Engine) (s : Scalar) : Option ℚ :=
  match Argument.ofScalar s with
  | .int n => some n.toInt
  | .float (.finite x) => some (engine.numeric x)
  | _ => none

end Engine

/-- Why an expression has no value. -/
inductive Fault where
  | unbound (index : Nat)
  | noElement
  | mismatch
  | notNumber (s : String)
  | notDocument (s : String)
  | notArray
  | openEscape
  deriving DecidableEq, Repr

namespace Argument

/-- The value of a placeholder. -/
def datum? : Argument → Option Datum
  | .null => none
  | .bool b => some (.bool b)
  | .int n => some (.integer n.toInt)
  | .float x => some (.double x)
  | .text s => some (.text s)
  | .json j => some (.json j)

end Argument

namespace Datum

/-- The place of a binary64 number in the order of the database, where what is not a number comes
last. -/
def rank (x : Binary64) : Int := x.place?.getD (2 ^ 2099)

/-- The binary64 number nearest to an exact one. -/
def nearest (q : ℚ) : Binary64 := Binary64.ofRat (q < 0) |q|

section Comparison

variable (engine : Engine) (bytewise : Bool) (op : Comparison)

def holdsInOrder (order : Ordering) : Bool := op.holds (order == .eq) (some order)

/-- Whether two texts stand in a comparison: they are equal when their characters are, whatever the
order of texts. -/
def textsHold (s t : String) : Bool :=
  op.holds (s == t) (some (if bytewise then compare s t else engine.collate s t))

theorem textsHold_eq (s t : String) : textsHold engine bytewise .eq s t = (s == t) := rfl

theorem textsHold_ne (s t : String) : textsHold engine bytewise .ne s t = (s != t) := rfl

/-- Whether two values stand in a comparison. Numbers of two kinds are compared in the wider one;
other values only within a kind. -/
def holds? : Datum → Datum → Option Bool
  | .bool a, .bool b => some (holdsInOrder op (compare a b))
  | .integer m, .integer n => some (holdsInOrder op (compare m n))
  | .numeric p, .numeric q => some (holdsInOrder op (compare p q))
  | .integer m, .numeric q => some (holdsInOrder op (compare (m : ℚ) q))
  | .numeric p, .integer n => some (holdsInOrder op (compare p (n : ℚ)))
  | .double x, .double y => some (holdsInOrder op (compare (rank x) (rank y)))
  | .integer m, .double y => some (holdsInOrder op (compare (rank (.ofInt m)) (rank y)))
  | .double x, .integer n => some (holdsInOrder op (compare (rank x) (rank (.ofInt n))))
  | .numeric p, .double y => some (holdsInOrder op (compare (rank (nearest p)) (rank y)))
  | .double x, .numeric q => some (holdsInOrder op (compare (rank x) (rank (nearest q))))
  | .text s, .text t => some (textsHold engine bytewise op s t)
  | _, _ => none

/-- The comparison of what may be NULL. -/
def compareCells (a b : Option Datum) : Except Fault Truth :=
  match a, b with
  | some a, some b =>
    match holds? engine bytewise op a b with
    | some holds => .ok (some holds)
    | none => .error .mismatch
  | _, _ => .ok none

end Comparison

/-- The number that a text writes. -/
def numberOfText (s : String) : Except Fault ℚ :=
  match Binary64.decimal? s.toList with
  | some (negative, d) => .ok (if negative then -d.value else d.value)
  | none => .error (.notNumber s)

/-- The text of a document: the characters of a text, JSON text otherwise; null has none. -/
def textOfJson (engine : Engine) : Json → Option String
  | .null => none
  | .bool b => some (Scalar.truth b)
  | .integer n => some (Scalar.integerText n.val)
  | .decimal x => some (Json.storedText x)
  | .text s => some s
  | j => some (engine.render (.json j))

def castTo (engine : Engine) (type : SqlType) (d : Datum) : Except Fault Datum :=
  match type, d with
  | .numeric, .integer n => .ok (.numeric n)
  | .numeric, .numeric q => .ok (.numeric q)
  | .numeric, .double (.finite x) => .ok (.numeric (engine.numeric x))
  | .numeric, .text s => (numberOfText s).map .numeric
  | .text, .text s => .ok (.text s)
  | .text, .bool b => .ok (.text (Scalar.truth b))
  | .text, .integer n => .ok (.text (Scalar.integerText n))
  | .text, d => .ok (.text (engine.render d))
  | .jsonb, .json j => .ok (.json j)
  | .jsonb, .text s =>
    match Json.read? s with
    | some j => .ok (.json j)
    | none => .error (.notDocument s)
  | _, _ => .error .mismatch

theorem numberOfText_of_decimal? {negative : Bool} {cs : List Char} {d : Decimal}
    (h : Binary64.decimal? cs = some (negative, d)) :
    numberOfText (String.ofList cs) = .ok (if negative then -d.value else d.value) := by
  simp only [numberOfText, String.toList_ofList, h]

theorem numberOfText_integerText (n : Int) : numberOfText (Scalar.integerText n) = .ok (n : ℚ) := by
  have hread := Binary64.decimal?_whole (decide (n < 0)) (Nat.toDigits 10 n.natAbs)
    Nat.toDigits_ne_nil (fun _ hc => isDigit_of_mem_toDigits hc) (Text.stops_nil _)
    Layout.readExponent?_nil
  have hchars : Json.integerChars n =
      Binary64.withSign (decide (n < 0)) (Nat.toDigits 10 n.natAbs ++ []) := by
    simp only [Json.integerChars, Binary64.withSign, List.append_nil, decide_eq_true_eq]
  have habs : (n.natAbs : ℚ) = |(n : ℚ)| := (Nat.cast_natAbs n).trans Int.cast_abs
  rw [Scalar.integerText, hchars, numberOfText_of_decimal? hread, ofDigits_toDigits]
  simp only [Decimal.value, zpow_zero, mul_one, habs, decide_eq_true_eq]
  rcases lt_or_ge n 0 with hn | hn
  · have hq : (n : ℚ) < 0 := by exact_mod_cast hn
    rw [if_pos hn, abs_of_neg hq, neg_neg]
  · have hq : (0 : ℚ) ≤ n := by exact_mod_cast hn
    rw [if_neg (not_lt.2 hn), abs_of_nonneg hq]

theorem numberOfText_storedText (x : Finite) :
    numberOfText (Json.storedText x) = .ok (x.written Json.numberLayout.tie) := by
  obtain ⟨e, hread, hvalue⟩ :=
    (Json.storedLayout (Decimal.shortest Json.numberLayout.tie x)).decimal?_write
      (x.negative && x.units != 0) (Decimal.shortest Json.numberLayout.tie x)
  rw [Json.storedText, numberOfText_of_decimal? hread, hvalue, Finite.written]
  by_cases hz : x.units = 0
  · simp [Decimal.shortest_value_of_zero hz]
  · simp [hz]

/-- The text of a stored number is cast to the number. -/
theorem numberOfText_textOfJson (engine : Engine) {j : Json} {q : ℚ} (h : j.number? = some q) :
    ∃ s, textOfJson engine j = some s ∧ numberOfText s = .ok q := by
  cases j with
  | integer n => exact ⟨_, rfl, by rw [numberOfText_integerText, Option.some.inj h]⟩
  | decimal x => exact ⟨_, rfl, by rw [numberOfText_storedText, Option.some.inj h]⟩
  | _ => cases h

end Datum

end Sql
end Sieve
