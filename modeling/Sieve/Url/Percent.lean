import Sieve.Number.Reader
import Sieve.Text.Search

/-!
# Sieve.Url.Percent

Bytes written into addresses: `%` and two hexadecimal digits stand for a byte, and every other
character for its bytes in UTF-8.

* `bytes`, `text?`, `lossyText`: what a text stands for, as bytes or as characters.
* `formPairs`: the names and values of a query.
-/

namespace Sieve
namespace Percent

def bytes : List Char → List UInt8
  | '%' :: a :: b :: rest =>
    match hexValue? a, hexValue? b with
    | some x, some y => UInt8.ofNat (16 * x + y) :: bytes rest
    | _, _ => '%'.toUInt8 :: bytes (a :: b :: rest)
  | c :: rest => String.utf8EncodeChar c ++ bytes rest
  | [] => []

def textOfBytes? (bs : List UInt8) : Option String := String.fromUTF8? ⟨bs.toArray⟩

/-- The text that a text stands for, if its bytes are UTF-8. -/
def text? (cs : List Char) : Option String := textOfBytes? (bytes cs)

/-- The character at the front of bytes. -/
def front? (bs : List UInt8) : Option Char :=
  [1, 2, 3, 4].findSome? fun n => (textOfBytes? (bs.take n)).bind (·.toList.head?)

/-- The characters that bytes stand for after the first `skipped` of them; a byte that belongs to no
character reads as the replacement character. -/
def lossyFrom (skipped : Nat) : List UInt8 → List Char
  | [] => []
  | b :: rest =>
    match skipped, front? (b :: rest) with
    | skipped + 1, _ => lossyFrom skipped rest
    | 0, some c => c :: lossyFrom (c.utf8Size - 1) rest
    | 0, none => '\uFFFD' :: lossyFrom 0 rest

def lossyText (cs : List Char) : String := String.ofList (lossyFrom 0 (bytes cs))

/-- A name or a value in a query, where a plus stands for a blank. -/
def formText (cs : List Char) : String :=
  lossyText (cs.map fun c => if c = '+' then ' ' else c)

/-- A name and its value; without `=` the value is empty. -/
def formPair (cs : List Char) : String × String :=
  (formText (cs.takeWhile (· ≠ '=')), formText ((cs.dropWhile (· ≠ '=')).drop 1))

def formPairs (query : List Char) : List (String × String) :=
  ((Text.split '&' query).filter (· ≠ [])).map formPair

end Percent
end Sieve
