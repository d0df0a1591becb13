import Sieve.Number.Saturating

/-!
# Sieve.Store.Page

Pages of a long result: which rows are asked for, and what came back. Offsets stop at the greatest
count.
-/

namespace Sieve

structure PageRequest where
  offset : UInt64
  limit : UInt64
  deriving DecidableEq, Repr

namespace PageRequest

/-- Rows on a page when nobody says how many. -/
def usualLimit : UInt64 := 50

/-- Rows on a page at most, unless a store says otherwise. -/
def usualGreatest : UInt64 := 500

def first (limit : UInt64) : PageRequest := ⟨0, limit⟩

def usual : PageRequest := first usualLimit

/-- The page that follows. -/
def next (r : PageRequest) : PageRequest := ⟨Saturating.add r.offset r.limit, r.limit⟩

/-- A limit of at least one row and at most `greatest`, or one if that is zero. -/
def clampLimit (greatest limit : UInt64) : UInt64 :=
  Saturating.clamp 1 (if greatest < 1 then 1 else greatest) limit

def clamped (r : PageRequest) (greatest : UInt64) : PageRequest :=
  ⟨r.offset, clampLimit greatest r.limit⟩

/-- The page with a number, counted from zero. -/
def numbered (number limit : UInt64) : PageRequest := ⟨Saturating.mul number limit, limit⟩

theorem toNat_clampLimit (greatest limit : UInt64) :
    (clampLimit greatest limit).toNat = max 1 (min limit.toNat (max 1 greatest.toNat)) := by
  have hone : (1 : UInt64).toNat = 1 := rfl
  have hgreatest : (if greatest < 1 then 1 else greatest).toNat = max 1 greatest.toNat := by
    simp only [UInt64.lt_iff_toNat_lt, hone]
    split <;> omega
  rw [clampLimit, Saturating.toNat_clamp, hgreatest, hone]
  split <;> omega

theorem clampLimit_pos (greatest limit : UInt64) : 0 < (clampLimit greatest limit).toNat := by
  rw [toNat_clampLimit]
  omega

theorem clampLimit_le (greatest limit : UInt64) :
    (clampLimit greatest limit).toNat ≤ max 1 greatest.toNat := by
  rw [toNat_clampLimit]
  omega

/-- A limit within bounds is let be. -/
theorem clampLimit_clampLimit (greatest limit : UInt64) :
    clampLimit greatest (clampLimit greatest limit) = clampLimit greatest limit := by
  rw [← UInt64.toNat_inj, toNat_clampLimit, toNat_clampLimit]
  omega

end PageRequest

structure Page (α : Type) where
  items : List α
  total : Int64
  offset : UInt64
  limit : UInt64

namespace Page

/-- Rows come after this page. -/
def hasMore (p : Page α) : Bool :=
  let seen := Saturating.add p.offset (Saturating.ofNat p.items.length)
  decide ((seen.toNat : Int) < max p.total.toInt 0)

end Page

end Sieve
