import Mathlib
import Sieve.Proofs.Sql.Datum
import Sieve.Proofs.Sql.Pattern

/-!
# Sieve.Proofs.Sql.Evaluation

The value of a SQL expression on a row. Most operations are strict in NULL; `CASE` evaluates the
branch it takes and no other. Since the database promises no order, both sides of `AND` and `OR` and
all elements of a searched array are evaluated, so that a fault anywhere is a fault of the whole.

* `Env.Binds`: the arguments of a compiled predicate stand at its placeholders.
* `Decides`: a condition comes out as a truth; one rule for each kind of condition.
* `eval_fulfils`: arguments for more placeholders change nothing.
-/

namespace Sieve
namespace Sql

/-- What an expression is evaluated on. -/
structure Env where
  engine : Engine
  row : String → Option Datum
  argument : Nat → Option Argument
  /-- The element that the innermost search in an array is looking at. -/
  element : Option Json

/-- NULL unless there is something to apply the function to. -/
def strict (f : Datum → Except Fault (Option Datum)) : Option Datum → Except Fault (Option Datum)
  | none => .ok none
  | some d => f d

def jsonOf : Datum → Except Fault Json
  | .json j => .ok j
  | _ => .error .mismatch

def textOf? : Datum → Except Fault String
  | .text s => .ok s
  | _ => .error .mismatch

def truthOf : Option Datum → Except Fault Truth
  | none => .ok none
  | some (.bool b) => .ok (some b)
  | some _ => .error .mismatch

def ofTruth : Truth → Option Datum := Option.map .bool

/-- A text compared byte by byte, parentheses aside. -/
def Expr.isBytewise : Expr → Bool
  | .bytewise _ => true
  | .paren e => e.isBytewise
  | _ => false

/-- Whether a text fits a pattern. -/
def likeTruth (negated : Bool) (s pattern : String) : Except Fault Truth :=
  match Pattern.parts? pattern.toList with
  | none => .error .openEscape
  | some parts => .ok (some (Pattern.fits parts s.toList != negated))

namespace Env

variable (env : Env)

def param (p : Param) : Except Fault (Option Datum) :=
  match env.argument p.index with
  | none => .error (.unbound p.index)
  | some a =>
    match p.type with
    | none => .ok a.datum?
    | some type => strict (fun d => (d.castTo env.engine type).map some) a.datum?

/-- The same row, looking at an element of an array. -/
def lookingAt (j : Json) : Env := { env with element := some j }

/-- The arguments stand at the placeholders from `first` on. -/
def Binds (first : Nat) (arguments : List Argument) : Prop :=
  ∀ i a, arguments[i]? = some a → env.argument (first + i) = some a

theorem binds_cons {env : Env} {first : Nat} {a : Argument} {arguments : List Argument} :
    env.Binds first (a :: arguments) ↔
      env.argument first = some a ∧ env.Binds (first + 1) arguments := by
  constructor
  · intro h
    refine ⟨h 0 a rfl, fun i b hb => ?_⟩
    rw [Nat.add_right_comm]
    exact h (i + 1) b hb
  · rintro ⟨ha, hrest⟩ i b hb
    cases i with
    | zero =>
      cases hb
      exact ha
    | succ i =>
      have := hrest i b hb
      rwa [Nat.add_right_comm] at this

end Env

@[simp] def eval (env : Env) : Expr → Except Fault (Option Datum)
  | .truth b => .ok (some (.bool b))
  | .column name => .ok (env.row name)
  | .element =>
    match env.element with
    | some j => .ok (some (.json j))
    | none => .error .noElement
  | .param p => env.param p
  | .string s => .ok (some (.text s))
  | .member doc key => do
    strict (fun d => do return ((← jsonOf d).member? key).map .json) (← eval env doc)
  | .memberText doc key => do
    strict (fun d => do
      return (((← jsonOf d).member? key).bind (Datum.textOfJson env.engine)).map .text)
      (← eval env doc)
  | .wholeText doc => do
    strict (fun d => do return (Datum.textOfJson env.engine (← jsonOf d)).map .text) (← eval env doc)
  | .kind doc => do
    strict (fun d => do return some (.text (← jsonOf d).kindName)) (← eval env doc)
  | .cast e type => do
    strict (fun d => do return some (← d.castTo env.engine type)) (← eval env e)
  | .bytewise e => eval env e
  | .compare op a b => do
    let bytewise := a.isBytewise || b.isBytewise
    return ofTruth (← Datum.compareCells env.engine bytewise op (← eval env a) (← eval env b))
  | .isNull negated e => do
    return some (.bool ((← eval env e).isNone != negated))
  | .distinct a b => do
    match ← eval env a, ← eval env b with
    | none, none => return some (.bool false)
    | some a, some b =>
      return ofTruth (Truth.not (← Datum.compareCells env.engine false .eq (some a) (some b)))
    | _, _ => return some (.bool true)
  | .like negated e pattern => do
    match ← eval env e, ← eval env pattern with
    | some s, some p => return ofTruth (← likeTruth negated (← textOf? s) (← textOf? p))
    | _, _ => return none
  | .among negated e items => do
    let v ← eval env e
    let truths ← items.mapM fun p => do Datum.compareCells env.engine false .eq v (← env.param p)
    return ofTruth (if negated then Truth.not (Truth.any truths) else Truth.any truths)
  | .includes a b => do
    match ← eval env a, ← eval env b with
    | some a, some b => return some (.bool (env.engine.includes (← jsonOf a) (← jsonOf b)))
    | _, _ => return none
  | .junction c a b => do
    return ofTruth (Truth.join c (← truthOf (← eval env a)) (← truthOf (← eval env b)))
  | .choose condition yes no => do
    if (← truthOf (← eval env condition)) = some true then eval env yes else eval env no
  | .whenever condition yes => do
    if (← truthOf (← eval env condition)) = some true then eval env yes else return none
  | .someElement array condition => do
    match ← eval env array with
    | none => return some (.bool false)
    | some d =>
      match ← jsonOf d with
      | .array items =>
        let truths ← items.mapM fun j => do truthOf (← eval (env.lookingAt j) condition)
        return some (.bool (truths.contains (some true)))
      | _ => .error .notArray
  | .paren e => eval env e

theorem mapM_forall₂ {α β : Type} {f : α → Except Fault β} {as : List α} {bs : List β}
    (h : List.Forall₂ (fun a b => f a = .ok b) as bs) : as.mapM f = .ok bs := by
  induction h with
  | nil => rfl
  | cons ha _ ih =>
    rw [List.mapM_cons, ha, ih]
    rfl

/-- A condition comes out true, false or unknown. -/
def Decides (env : Env) (e : Expr) (t : Truth) : Prop := eval env e = .ok (ofTruth t)

theorem truthOf_ofTruth (t : Truth) : truthOf (ofTruth t) = .ok t := by
  cases t <;> rfl

section Rules

variable {env : Env} {e f : Expr} {x y : Option Datum} {s t : Truth}

theorem eval_string (s : String) : eval env (.string s) = .ok (some (.text s)) := by
  rw [eval]

theorem decides_truth (b : Bool) : Decides env (.truth b) (some b) := by
  unfold Decides
  rw [eval]
  rfl

theorem decides_paren (h : Decides env e t) : Decides env (.paren e) t := by
  unfold Decides at h ⊢
  rw [eval, h]

theorem decides_isNull (negated : Bool) (h : eval env e = .ok x) :
    Decides env (.isNull negated e) (some (x.isNone != negated)) := by
  unfold Decides
  rw [eval, h]
  rfl

theorem decides_compare {op : Comparison} (he : eval env e = .ok x) (hf : eval env f = .ok y)
    (ht : Datum.compareCells env.engine (e.isBytewise || f.isBytewise) op x y = .ok t) :
    Decides env (.compare op e f) t := by
  unfold Decides
  simp only [eval, he, hf, bind, Except.bind, ht]
  rfl

theorem decides_junction (c : Conjunction) (he : Decides env e s) (hf : Decides env f t) :
    Decides env (.junction c e f) (Truth.join c s t) := by
  unfold Decides at he hf ⊢
  simp only [eval, he, hf, bind, Except.bind, truthOf_ofTruth]
  rfl

theorem decides_among {items : List Param} {truths : List Truth} (negated : Bool)
    (he : eval env e = .ok x)
    (hitems : List.Forall₂ (fun p t => ∃ y, env.param p = .ok y ∧
      Datum.compareCells env.engine false .eq x y = .ok t) items truths) :
    Decides env (.among negated e items)
      (if negated then Truth.not (Truth.any truths) else Truth.any truths) := by
  have hall : List.Forall₂ (fun p t =>
      (do Datum.compareCells env.engine false .eq x (← env.param p)) = Except.ok t)
      items truths := by
    refine hitems.imp fun p t hp => ?_
    obtain ⟨y, hy, hcmp⟩ := hp
    rw [hy]
    exact hcmp
  unfold Decides
  rw [eval, he]
  simp only [bind, Except.bind] at hall ⊢
  rw [mapM_forall₂ hall]
  rfl

theorem eval_choose (h : Decides env e t) (yes no : Expr) :
    eval env (.choose e yes no) = if t = some true then eval env yes else eval env no := by
  unfold Decides at h
  simp only [eval, h, bind, Except.bind, truthOf_ofTruth]

theorem decides_choose {yes no : Expr} (h : Decides env e s)
    (hyes : s = some true → Decides env yes t) (hno : s ≠ some true → Decides env no t) :
    Decides env (.choose e yes no) t := by
  unfold Decides at hyes hno ⊢
  rw [eval_choose h]
  split
  · next hs => exact hyes hs
  · next hs => exact hno hs

theorem eval_whenever (h : Decides env e t) (yes : Expr) :
    eval env (.whenever e yes) = if t = some true then eval env yes else .ok none := by
  unfold Decides at h
  simp only [eval, h, bind, Except.bind, truthOf_ofTruth]
  rfl

theorem eval_cast (h : eval env e = .ok x) (type : SqlType) :
    eval env (.cast e type) = strict (fun d => (d.castTo env.engine type).map some) x := by
  rw [eval, h]
  rfl

theorem decides_someElement {items : List Json} {truths : List Truth}
    (he : eval env e = .ok (some (.json (.array items))))
    (hitems : List.Forall₂ (fun j t => Decides (env.lookingAt j) f t) items truths) :
    Decides env (.someElement e f) (some (truths.contains (some true))) := by
  have hall : List.Forall₂ (fun j t =>
      (do truthOf (← eval (env.lookingAt j) f)) = Except.ok t) items truths := by
    refine hitems.imp fun j t hj => ?_
    rw [hj]
    exact truthOf_ofTruth t
  unfold Decides
  rw [eval, he]
  simp only [bind, Except.bind, jsonOf] at hall ⊢
  rw [mapM_forall₂ hall]
  rfl

end Rules

/-! ## More arguments -/

/-- The first computation comes to what the second one comes to, unless that fails. -/
def Fulfils {α : Type} (y x : Except Fault α) : Prop := ∀ a, x = .ok a → y = .ok a

section Fulfils

variable {α β : Type} {x y : Except Fault α} {f g : α → Except Fault β}

theorem Fulfils.refl (x : Except Fault α) : Fulfils x x := fun _ h => h

theorem Fulfils.bind (hx : Fulfils y x) (hf : ∀ a, Fulfils (g a) (f a)) :
    Fulfils (y >>= g) (x >>= f) := by
  intro b hb
  cases x with
  | error e => cases hb
  | ok a =>
    rw [hx a rfl]
    exact hf a b hb

theorem Fulfils.mapM (hf : ∀ a, Fulfils (g a) (f a)) (as : List α) :
    Fulfils (as.mapM g) (as.mapM f) := by
  induction as with
  | nil => exact .refl _
  | cons a as ih =>
    rw [List.mapM_cons, List.mapM_cons]
    exact (hf a).bind fun b => ih.bind fun bs => .refl _

end Fulfils

section More

variable {env : Env} {argument : Nat → Option Argument}

theorem param_fulfils (h : ∀ i a, env.argument i = some a → argument i = some a) (p : Param) :
    Fulfils (Env.param { env with argument } p) (env.param p) := by
  intro d hd
  unfold Env.param at hd ⊢
  cases ha : env.argument p.index with
  | none =>
    rw [ha] at hd
    cases hd
  | some a =>
    rw [ha] at hd
    simpa only [h p.index a ha] using hd

/-- Arguments for more placeholders do not change what an expression comes to. -/
theorem eval_fulfils (h : ∀ i a, env.argument i = some a → argument i = some a) (e : Expr) :
    Fulfils (eval { env with argument } e) (eval env e) := by
  -- For all environments, since a search in an array looks at one element after the other.
  induction e generalizing env with
  | truth | column | element | string => exact .refl _
  | param p =>
    rw [eval, eval]
    exact param_fulfils h p
  | member doc key ih | memberText doc key ih | wholeText doc ih | kind doc ih | cast doc type ih
  | isNull negated doc ih =>
    rw [eval, eval]
    exact (ih h).bind fun x => .refl _
  | bytewise e ih | paren e ih =>
    rw [eval, eval]
    exact ih h
  | compare op a b iha ihb | distinct a b iha ihb | like negated a b iha ihb
  | includes a b iha ihb =>
    rw [eval, eval]
    exact (iha h).bind fun x => (ihb h).bind fun y => .refl _
  | among negated e items ih =>
    rw [eval, eval]
    refine (ih h).bind fun x => Fulfils.bind (Fulfils.mapM (fun p => ?_) items) fun truths => ?_
    · exact (param_fulfils h p).bind fun y => .refl _
    · exact .refl _
  | junction c a b iha ihb =>
    rw [eval, eval]
    exact (iha h).bind fun x => Fulfils.bind (.refl _) fun s =>
      (ihb h).bind fun y => .refl _
  | choose condition yes no ih ihy ihn =>
    rw [eval, eval]
    refine (ih h).bind fun x => Fulfils.bind (.refl _) fun t => ?_
    by_cases ht : t = some true
    · rw [if_pos ht, if_pos ht]
      exact ihy h
    · rw [if_neg ht, if_neg ht]
      exact ihn h
  | whenever condition yes ih ihy =>
    rw [eval, eval]
    refine (ih h).bind fun x => Fulfils.bind (.refl _) fun t => ?_
    by_cases ht : t = some true
    · rw [if_pos ht, if_pos ht]
      exact ihy h
    · rw [if_neg ht, if_neg ht]
      exact .refl _
  | someElement array condition ih ihc =>
    rw [eval, eval]
    refine (ih h).bind fun x => ?_
    cases x with
    | none => exact .refl _
    | some d =>
      refine Fulfils.bind (.refl _) fun j => ?_
      cases j with
      | array items =>
        have hitems := Fulfils.mapM
          (fun j => (@ihc (env.lookingAt j) h).bind fun y => .refl (truthOf y)) items
        exact hitems.bind fun truths => .refl _
      | _ => exact .refl _

end More

end Sql
end Sieve
