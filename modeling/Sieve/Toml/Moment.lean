/-!
# Sieve.Toml.Moment

Dates and times of TOML: a date, a time of day, or both, then with an optional offset from universal
time. `Moment.read?` takes one from the front of a text and returns its standard form: the letters
in upper case, fractions of a second to nine places at most and without zeros at the end.
-/

namespace Sieve
namespace Toml
namespace Moment

/-- Exactly so many digits, and the number they write. -/
def digits? (count : Nat) (cs : List Char) : Option (Nat × List Char) :=
  let taken := cs.take count
  if taken.length = count ∧ taken.all Char.isDigit then
    some (taken.foldl (fun n c => 10 * n + (c.toNat - '0'.toNat)) 0, cs.drop count)
  else none

/-- A number of two digits within bounds. -/
def field? (low high : Nat) (cs : List Char) : Option (Nat × List Char) := do
  let (n, rest) ← digits? 2 cs
  if low ≤ n ∧ n ≤ high then return (n, rest) else none

def mark? (c : Char) : List Char → Option (List Char)
  | d :: rest => if d = c then some rest else none
  | [] => none

/-- A number with zeros in front up to a width. -/
def padded (width n : Nat) : List Char :=
  let ds := Nat.toDigits 10 n
  List.replicate (width - ds.length) '0' ++ ds

def isLeapYear (year : Nat) : Bool := year % 4 == 0 && (year % 100 != 0 || year % 400 == 0)

def daysIn (year month : Nat) : Nat :=
  match month with
  | 2 => if isLeapYear year then 29 else 28
  | 4 => 30
  | 6 => 30
  | 9 => 30
  | 11 => 30
  | _ => 31

def date? (cs : List Char) : Option (List Char × List Char) := do
  let (year, cs) ← digits? 4 cs
  let cs ← mark? '-' cs
  let (month, cs) ← field? 1 12 cs
  let cs ← mark? '-' cs
  let (day, cs) ← field? 1 (daysIn year month) cs
  return (padded 4 year ++ '-' :: padded 2 month ++ '-' :: padded 2 day, cs)

/-- A point with at least one digit, if there is a point. -/
def fraction? : List Char → Option (List Char × List Char)
  | '.' :: rest =>
    let ds := rest.takeWhile Char.isDigit
    if ds.isEmpty then none
    else
      let kept := ((ds.take 9).reverse.dropWhile (· == '0')).reverse
      some (if kept.isEmpty then [] else '.' :: kept, rest.dropWhile Char.isDigit)
  | cs => some ([], cs)

def time? (cs : List Char) : Option (List Char × List Char) := do
  let (hour, cs) ← field? 0 23 cs
  let cs ← mark? ':' cs
  let (minute, cs) ← field? 0 59 cs
  let cs ← mark? ':' cs
  let (second, cs) ← field? 0 60 cs
  let (fraction, cs) ← fraction? cs
  return (padded 2 hour ++ ':' :: padded 2 minute ++ ':' :: padded 2 second ++ fraction, cs)

/-- An offset, if there is one; none at all has a plus sign. -/
def offset? : List Char → Option (List Char × List Char)
  | [] => some ([], [])
  | c :: rest =>
    if c = 'Z' ∨ c = 'z' then some (['Z'], rest)
    else if c = '+' ∨ c = '-' then do
      let (hour, rest) ← field? 0 23 rest
      let rest ← mark? ':' rest
      let (minute, rest) ← field? 0 59 rest
      let sign := if c = '-' ∧ hour + minute ≠ 0 then '-' else '+'
      return (sign :: padded 2 hour ++ ':' :: padded 2 minute, rest)
    else some ([], c :: rest)

def isDelimiter (c : Char) : Bool := c == 'T' || c == 't' || c == ' '

/-- The time and the offset after a date; a date can stand alone. -/
def afterDate? (date : List Char) : List Char → Option (List Char × List Char)
  | [] => some (date, [])
  | c :: rest =>
    if isDelimiter c then
      match time? rest with
      | none => some (date, c :: rest)
      | some (time, rest) => do
        let (offset, rest) ← offset? rest
        return (date ++ 'T' :: time ++ offset, rest)
    else some (date, c :: rest)

def read? (cs : List Char) : Option (String × List Char) := do
  let (cs, rest) ←
    match date? cs with
    | some (date, rest) => afterDate? date rest
    | none => time? cs
  return (String.ofList cs, rest)

end Moment
end Toml
end Sieve
