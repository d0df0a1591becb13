import Sieve.Entity.Resolve

/-!
# Sieve.Proofs.Json.Path

What stands at the end of a path in a document, and what the matcher finds there. As long as no
array is met on the way, the findings of a path are those of its end: `Entity.findings_ofJson`.
-/

namespace Sieve

namespace Json

/-- The document at the end of a path through objects. -/
def follow : List String → Json → Option Json
  | [], j => some j
  | key :: rest, j => (j.member? key).bind (follow rest)

/-- No array stands before the end of the path. -/
def NoArrayOn : List String → Json → Prop
  | [], _ => True
  | _ :: _, .array _ => False
  | key :: rest, j => ∀ inner, j.member? key = some inner → NoArrayOn rest inner

/-- No array stands before the end of a path that leads somewhere. -/
theorem noArrayOn_of_follow {path : List String} {j inner : Json}
    (h : j.follow path = some inner) : j.NoArrayOn path := by
  induction path generalizing j with
  | nil => exact trivial
  | cons key rest ih =>
    obtain ⟨next, hnext, hrest⟩ := Option.bind_eq_some_iff.1 h
    cases j with
    | object members =>
      intro inner' hinner'
      rw [hnext, Option.some.injEq] at hinner'
      exact hinner' ▸ ih hrest
    | _ => cases hnext

def isComposite : Json → Bool
  | .array _ => true
  | .object _ => true
  | _ => false

/-- The value of a document that is neither a container nor null. -/
def scalar? (j : Json) : Option Scalar :=
  match Value.ofJson? j with
  | some (.scalar s) => some s
  | _ => none

end Json

/-- What stands at the end of a path that leads to no container. -/
def Found.ofScalar? : Option Scalar → Found
  | none => .null
  | some s => .scalar s

namespace Entity

theorem ofJson_of_atomic {j : Json} (h : j.isComposite = false) :
    ofJson j = match j.scalar? with
      | some s => .leaf s
      | none => .null := by
  unfold Json.scalar?
  cases j with
  | array items => cases h
  | object members => cases h
  | integer n => cases hfit : n.toInt64? <;> simp [ofJson, Value.ofJson?, hfit]
  | _ => rfl

theorem findings_nil_of_atomic {j : Json} (h : j.isComposite = false) :
    findings [] (ofJson j) = [.ofScalar? j.scalar?] := by
  rw [ofJson_of_atomic h]
  cases j.scalar? <;> simp [findings, resolve, itemFindings, Found.ofScalar?]

theorem findings_cons_of_atomic {j : Json} (h : j.isComposite = false) (key : String)
    (rest : List String) : findings (key :: rest) (ofJson j) = [.null] := by
  rw [ofJson_of_atomic h]
  cases j.scalar? <;> simp [findings, resolve, itemFindings]

theorem resolveMember_ofJson (key : String) (rest : List String) (members : List (String × Json)) :
    resolveMember (fun name => name == key) key rest (ofJsonMembers members) =
      match Entries.get? key members with
      | some j => resolve rest (ofJson j)
      | none => .error (.missing key) := by
  induction members with
  | nil => simp [ofJsonMembers, resolveMember, Entries.get?]
  | cons m members ih =>
    obtain ⟨name, j⟩ := m
    by_cases hname : name = key
    · simp [ofJsonMembers, resolveMember, Entries.get?, hname]
    · simp [ofJsonMembers, resolveMember, Entries.get?, hname, ih]

theorem findings_ofJson {path : List String} {j : Json} (h : j.NoArrayOn path) :
    findings path (ofJson j) =
      match j.follow path with
      | some inner => findings [] (ofJson inner)
      | none => [.null] := by
  induction path generalizing j with
  | nil => rfl
  | cons key rest ih =>
    cases j with
    | array items => exact False.elim h
    | object members =>
      simp only [findings, ofJson, resolve, resolveMember_ofJson, Json.follow, Json.member?]
      cases hget : Entries.get? key members with
      | none => rfl
      | some inner => exact ih (h inner hget)
    | _ => exact findings_cons_of_atomic rfl key rest

end Entity

end Sieve
