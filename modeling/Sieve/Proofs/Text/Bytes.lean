import Mathlib

/-!
# Sieve.Proofs.Text.Bytes

The order of texts by their bytes. In UTF-8 the first byte grows with the number of bytes, and among
characters of one length the bits of the character stand in the bytes from the highest to the
lowest, so the order of the characters is the order of the bytes: `compare_bytes`.
-/

namespace Sieve
namespace Text

/-- The UTF-8 bytes of a text. -/
def bytes (s : String) : List UInt8 := s.toUTF8.data.toList

theorem bytes_eq_flatMap (s : String) : bytes s = s.toList.flatMap String.utf8EncodeChar := by
  rw [bytes, String.toUTF8_eq_toByteArray, ← String.utf8Encode_toList, List.utf8Encode,
    List.data_toByteArray]

/-- The first bytes that differ decide. -/
theorem compare_cons_eq_lt {x y : UInt8} {xs ys : List UInt8} :
    compare (x :: xs) (y :: ys) = .lt ↔
      x.toNat < y.toNat ∨ x.toNat = y.toNat ∧ compare xs ys = .lt := by
  rw [List.compare_cons_cons, Ordering.then_eq_lt, Std.compare_eq_lt, Std.compare_eq_iff_eq,
    UInt8.lt_iff_toNat_lt, UInt8.toNat_inj]

theorem compare_append_left (before xs ys : List UInt8) :
    compare (before ++ xs) (before ++ ys) = compare xs ys := by
  induction before with
  | nil => rfl
  | cons x before ih =>
    rw [List.cons_append, List.cons_append, List.compare_cons_cons, ih,
      Std.compare_eq_iff_eq.2 rfl, Ordering.then]

/-- The bytes of a smaller character come first, whatever follows. -/
theorem compare_utf8EncodeChar {c d : Char} (h : c < d) (xs ys : List UInt8) :
    compare (String.utf8EncodeChar c ++ xs) (String.utf8EncodeChar d ++ ys) = .lt := by
  have hlt : c.val.toNat < d.val.toNat := h
  have hd : d.val.toNat < 1114112 := by
    rcases d.valid with hlow | hhigh
    · exact hlow.trans (by decide)
    · exact hhigh.2
  simp only [String.utf8EncodeChar]
  generalize c.val.toNat = m at hlt
  generalize d.val.toNat = n at hlt hd
  -- The bytes are digits to the base 64, of which the upper ones are those of the quotient.
  have hsecond (k : Nat) : k / 4096 = k / 64 / 64 := by omega
  have hthird (k : Nat) : k / 262144 = k / 64 / 64 / 64 := by omega
  split_ifs <;>
    simp only [List.cons_append, List.nil_append, compare_cons_eq_lt, UInt8.toNat_ofNat',
      hsecond, hthird] <;>
    omega

theorem compare_flatMap {cs ds : List Char} (h : cs < ds) :
    compare (cs.flatMap String.utf8EncodeChar) (ds.flatMap String.utf8EncodeChar) = .lt := by
  induction cs generalizing ds with
  | nil =>
    cases ds with
    | nil => exact absurd h (List.lt_irrefl [])
    | cons d ds =>
      obtain ⟨x, xs, hd⟩ := List.exists_cons_of_ne_nil (String.utf8EncodeChar_ne_nil (c := d))
      rw [List.flatMap_cons, hd, List.cons_append, List.flatMap_nil, List.compare_nil_cons]
  | cons c cs ih =>
    cases ds with
    | nil => exact absurd h (List.not_lt_nil _)
    | cons d ds =>
      rw [List.flatMap_cons, List.flatMap_cons]
      rcases List.cons_lt_cons_iff.1 h with hcd | ⟨rfl, hrest⟩
      · exact compare_utf8EncodeChar hcd _ _
      · rw [compare_append_left]
        exact ih hrest

/-- Texts are ordered as their bytes are. -/
theorem compare_bytes (s t : String) : compare (bytes s) (bytes t) = compare s t := by
  have hlt {s t : String} (h : s < t) : compare (bytes s) (bytes t) = compare s t := by
    rw [bytes_eq_flatMap, bytes_eq_flatMap, compare_flatMap h]
    exact (compareOfLessAndEq_eq_lt.2 h).symm
  rcases lt_trichotomy s t with h | rfl | h
  · exact hlt h
  · rw [Std.compare_eq_iff_eq.2 rfl, Std.compare_eq_iff_eq.2 rfl]
  · calc
      compare (bytes s) (bytes t) = (compare (bytes t) (bytes s)).swap := Std.OrientedCmp.eq_swap
      _ = (compare t s).swap := by rw [hlt h]
      _ = compare s t := Std.OrientedCmp.eq_swap.symm

end Text
end Sieve
