import Sieve.Number.Shortest

/-!
# Sieve.Number.Layout

How the digits of a number are set out in text. A `Layout` holds the decisions of one format;
`write` sets out chosen digits and `Layout.finite` and `Layout.number` choose the shortest ones
first.
-/

namespace Sieve

structure Layout where
  /-- Exponents of the leading digit that are not written as exponents; all of them, if absent. -/
  plain : Option (Int × Int)
  /-- A whole number written without an exponent ends in a point and a zero. -/
  point : Bool
  /-- A positive exponent carries a plus sign. -/
  plus : Bool
  /-- Which of two equally near digits ends the number. -/
  tie : Tie

namespace Layout

def zeros (n : Nat) : List Char := List.replicate n '0'

/-- The digits of a number without the zeros at its end, and the exponent of the leading digit. -/
def significant (d : Decimal) : List Char × Int :=
  if d.digits = 0 then (['0'], 0)
  else
    let all := Nat.toDigits 10 d.digits
    ((all.reverse.dropWhile (· == '0')).reverse, d.exponent + all.length - 1)

def positional (l : Layout) (digits : List Char) (lead : Int) : List Char :=
  if lead < 0 then '0' :: '.' :: zeros (-lead - 1).toNat ++ digits
  else
    let whole := lead.toNat + 1
    if digits.length ≤ whole then
      digits ++ zeros (whole - digits.length) ++ (if l.point then ['.', '0'] else [])
    else digits.take whole ++ '.' :: digits.drop whole

def scientific (l : Layout) (digits : List Char) (lead : Int) : List Char :=
  let fraction := digits.drop 1
  digits.take 1 ++ (if fraction.isEmpty then [] else '.' :: fraction) ++ 'e' ::
    (if lead < 0 then ['-'] else if l.plus then ['+'] else []) ++ Nat.toDigits 10 lead.natAbs

def write (l : Layout) (negative : Bool) (d : Decimal) : List Char :=
  let (digits, lead) := significant d
  let body :=
    match l.plain with
    | none => l.positional digits lead
    | some (low, high) =>
      if low ≤ lead ∧ lead < high then l.positional digits lead else l.scientific digits lead
  if negative then '-' :: body else body

def finite (l : Layout) (x : Finite) : String :=
  String.ofList (l.write x.negative (Decimal.shortest l.tie x))

def number (l : Layout) : Binary64 → String
  | .finite x => l.finite x
  | .infinite false => "inf"
  | .infinite true => "-inf"
  | .nan => "NaN"

end Layout

end Sieve
