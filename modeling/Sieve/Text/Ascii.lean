/-!
# Sieve.Text.Ascii

Letter case of ASCII letters; every other character stands for itself.
-/

namespace Sieve
namespace Text

def asciiLower (s : String) : String := String.ofList (s.toList.map Char.toLower)

/-- Equality up to the case of ASCII letters. -/
def sameIgnoringCase (s t : String) : Bool := asciiLower s == asciiLower t

theorem sameIgnoringCase_iff {s t : String} :
    sameIgnoringCase s t = true ↔ asciiLower s = asciiLower t := by
  simp [sameIgnoringCase]

end Text
end Sieve
