import Sieve.Operator

/-!
# Sieve.Proofs.Sql.Truth

Truth in SQL: true, false, or NULL for unknown. Only what is true counts in the end, so every
operation comes with the condition for its outcome to be true.
-/

namespace Sieve
namespace Sql

/-- True, false, or unknown. -/
abbrev Truth := Option Bool

namespace Truth

def not : Truth → Truth := Option.map Bool.not

def and : Truth → Truth → Truth
  | some false, _ => some false
  | some true, b => b
  | none, some false => some false
  | none, _ => none

def or : Truth → Truth → Truth
  | some true, _ => some true
  | some false, b => b
  | none, some true => some true
  | none, _ => none

def join : Conjunction → Truth → Truth → Truth
  | .and => and
  | .or => or

def any (ts : List Truth) : Truth := ts.foldr or (some false)

theorem not_eq_true {a : Truth} : not a = some true ↔ a = some false := by
  rcases a with _ | _ | _ <;> simp [not]

theorem and_eq_true {a b : Truth} : and a b = some true ↔ a = some true ∧ b = some true := by
  rcases a with _ | _ | _ <;> rcases b with _ | _ | _ <;> simp [and]

theorem or_eq_true {a b : Truth} : or a b = some true ↔ a = some true ∨ b = some true := by
  rcases a with _ | _ | _ <;> rcases b with _ | _ | _ <;> simp [or]

theorem or_eq_false {a b : Truth} : or a b = some false ↔ a = some false ∧ b = some false := by
  rcases a with _ | _ | _ <;> rcases b with _ | _ | _ <;> simp [or]

theorem any_eq_true {ts : List Truth} : any ts = some true ↔ some true ∈ ts := by
  induction ts with
  | nil => simp [any]
  | cons t ts ih =>
    rw [any, List.foldr_cons, or_eq_true, List.mem_cons, eq_comm (a := some true)]
    exact or_congr_right ih

theorem any_eq_false {ts : List Truth} : any ts = some false ↔ ∀ t ∈ ts, t = some false := by
  induction ts with
  | nil => simp [any]
  | cons t ts ih =>
    rw [any, List.foldr_cons, or_eq_false, List.forall_mem_cons]
    exact and_congr_right' ih

theorem any_map_some {α : Type} (f : α → Bool) (as : List α) :
    any (as.map fun a => some (f a)) = some (as.any f) := by
  induction as with
  | nil => rfl
  | cons a as ih =>
    rw [List.map_cons, List.any_cons, any, List.foldr_cons, ← any, ih]
    cases f a <;> rfl

end Truth

end Sql
end Sieve
