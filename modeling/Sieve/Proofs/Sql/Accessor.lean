import Mathlib
import Sieve.Proofs.Json.Path
import Sieve.Proofs.Sql.Evaluation
import Sieve.Sql.Compile

/-!
# Sieve.Proofs.Sql.Accessor

What the accessors of a path yield. An expression *shows* a document when it evaluates to it, or to
NULL for no document; each accessor of a path into a shown document yields something of the document
at the end of the path, NULL if there is none: itself (`shows_documentAt`), its text
(`eval_textAt`), its number (`eval_numberAt`), the name of its kind (`eval_kind`).
-/

namespace Sieve
namespace Sql

/-- An expression evaluates to a document, to NULL if there is none. -/
def Shows (env : Env) (e : Expr) (j : Option Json) : Prop := eval env e = .ok (j.map .json)

theorem castTo_number (engine : Engine) {j : Json} {q : ℚ} (h : j.number? = some q) :
    ∃ s, Datum.textOfJson engine j = some s ∧
      Datum.castTo engine .numeric (.text s) = .ok (.numeric q) := by
  obtain ⟨s, htext, hcast⟩ := Datum.numberOfText_textOfJson engine h
  exact ⟨s, htext, by rw [Datum.castTo, hcast, Except.map]⟩

theorem kindName_eq_number_iff {j : Json} : j.kindName = "number" ↔ ∃ q, j.number? = some q := by
  cases j <;> simp [Json.kindName, Json.number?]

section Accessors

variable {env : Env} {root : Expr} {content : Option Json}

theorem shows_element (env : Env) (j : Json) : Shows (env.lookingAt j) .element (some j) := by
  unfold Shows
  rw [eval]
  rfl

theorem shows_paren (h : Shows env root content) : Shows env (.paren root) content := by
  unfold Shows at h ⊢
  rw [eval, h]

theorem shows_member (h : Shows env root content) (key : String) :
    Shows env (.member root key) (content.bind (·.member? key)) := by
  unfold Shows at h ⊢
  rw [eval, h]
  cases content <;> rfl

theorem eval_memberText (h : Shows env root content) (key : String) :
    eval env (.memberText root key) =
      .ok (((content.bind (·.member? key)).bind (Datum.textOfJson env.engine)).map .text) := by
  unfold Shows at h
  rw [eval, h]
  cases content <;> rfl

theorem eval_wholeText (h : Shows env root content) :
    eval env (.wholeText root) =
      .ok ((content.bind (Datum.textOfJson env.engine)).map .text) := by
  unfold Shows at h
  rw [eval, h]
  cases content <;> rfl

theorem eval_kind (h : Shows env root content) :
    eval env (.kind root) = .ok (content.map fun j => .text j.kindName) := by
  unfold Shows at h
  rw [eval, h]
  cases content <;> rfl

theorem shows_members (h : Shows env root content) (path : List String) :
    Shows env (path.foldl .member root) (content.bind (·.follow path)) := by
  induction path generalizing root content with
  | nil =>
    have hnil : content.bind (·.follow []) = content := by cases content <;> rfl
    rw [List.foldl_nil, hnil]
    exact h
  | cons key rest ih =>
    have hcons : content.bind (·.follow (key :: rest)) =
        (content.bind (·.member? key)).bind (·.follow rest) := by
      cases content <;> rfl
    rw [List.foldl_cons, hcons]
    exact ih (shows_member h key)

theorem shows_documentAt (h : Shows env root content) (path : List String) :
    Shows env (documentAt root path) (content.bind (·.follow path)) := by
  cases path with
  | nil => exact shows_members h []
  | cons key rest => exact shows_paren (shows_members h (key :: rest))

theorem eval_textChain (h : Shows env root content) (key : String) (rest : List String) :
    eval env (textChain root key rest) =
      .ok (((content.bind (·.follow (key :: rest))).bind
        (Datum.textOfJson env.engine)).map .text) := by
  induction rest generalizing root content key with
  | nil =>
    rw [textChain, eval_memberText h]
    cases content with
    | none => rfl
    | some j => simp [Json.follow]
  | cons next more ih =>
    have hcons : content.bind (·.follow (key :: next :: more)) =
        (content.bind (·.member? key)).bind (·.follow (next :: more)) := by
      cases content <;> rfl
    rw [textChain, ih (shows_member h key), hcons]

theorem eval_textAt (h : Shows env root content) (path : List String) :
    eval env (textAt root path) =
      .ok (((content.bind (·.follow path)).bind (Datum.textOfJson env.engine)).map .text) := by
  cases path with
  | nil =>
    have hnil : content.bind (·.follow []) = content := by cases content <;> rfl
    rw [textAt, eval, eval_wholeText h, hnil]
  | cons key rest => rw [textAt, eval, eval_textChain h]

theorem decides_kindIs (h : Shows env root content) (op : Comparison) (name : String) :
    Decides env (.compare op (.kind root) (.string name))
      (content.map fun j => Datum.textsHold env.engine false op j.kindName name) := by
  refine decides_compare (eval_kind h) (eval_string name) ?_
  cases content <;> rfl

theorem eval_numberAt (h : Shows env root content) (path : List String) :
    eval env (numberAt root path) =
      .ok (((content.bind (·.follow path)).bind Json.number?).map .numeric) := by
  have hkind := decides_kindIs (shows_documentAt h path) .eq "number"
  have hcast := eval_cast (eval_textAt h path) .numeric
  rw [numberAt, eval, eval_whenever hkind, hcast]
  generalize content.bind (·.follow path) = inner
  cases inner with
  | none => rfl
  | some j =>
    cases hnumber : j.number? with
    | some q =>
      obtain ⟨s, hs, hq⟩ := castTo_number env.engine hnumber
      have hname : j.kindName = "number" := kindName_eq_number_iff.2 ⟨q, hnumber⟩
      simp [Datum.textsHold, Comparison.holds, hname, hs, strict, hq, hnumber, Except.map]
    | none =>
      have hname : j.kindName ≠ "number" := fun hname => by
        obtain ⟨q, hq⟩ := kindName_eq_number_iff.1 hname
        rw [hnumber] at hq
        cases hq
      simp [Datum.textsHold, Comparison.holds, hname, hnumber]

end Accessors

end Sql
end Sieve
