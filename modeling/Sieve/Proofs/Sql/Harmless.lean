import Mathlib
import Sieve.Proofs.Sql.Evaluation

/-!
# Sieve.Proofs.Sql.Harmless

Faults that come up only when a row is read: a cast of a text that writes no value of the type, a
search in what is no array, a pattern with an open escape. An expression is *harmless* on a row if
none of its parts that are evaluated there meets one of them, in whatever order they are evaluated;
of a `CASE` the branch that is taken counts. What is left are faults of the types, which are found
before a row is read: `Harmless.tame`.
-/

namespace Sieve
namespace Sql

/-- The fault is found on a row and not before. -/
def Fault.isLate : Fault → Bool
  | .notNumber _ => true
  | .notDocument _ => true
  | .notArray => true
  | .openEscape => true
  | _ => false

/-- There is nothing to cast, or the cast has a value. -/
def Casts (engine : Engine) (type : SqlType) (x : Option Datum) : Prop :=
  ∀ d, x = some d → ∃ d', d.castTo engine type = .ok d'

/-- The argument of a placeholder can be cast as the placeholder says. -/
def HarmlessParam (env : Env) (p : Param) : Prop :=
  ∀ a type, env.argument p.index = some a → p.type = some type → Casts env.engine type a.datum?

def Harmless (env : Env) : Expr → Prop
  | .truth _ => True
  | .column _ => True
  | .element => True
  | .param p => HarmlessParam env p
  | .string _ => True
  | .member doc _ => Harmless env doc
  | .memberText doc _ => Harmless env doc
  | .wholeText doc => Harmless env doc
  | .kind doc => Harmless env doc
  | .cast e type => Harmless env e ∧ ∀ x, eval env e = .ok x → Casts env.engine type x
  | .bytewise e => Harmless env e
  | .compare _ a b => Harmless env a ∧ Harmless env b
  | .isNull _ e => Harmless env e
  | .distinct a b => Harmless env a ∧ Harmless env b
  | .like _ e pattern =>
    Harmless env e ∧ Harmless env pattern ∧
      ∀ s, eval env pattern = .ok (some (.text s)) → Pattern.parts? s.toList ≠ none
  | .among _ e items => Harmless env e ∧ ∀ p ∈ items, HarmlessParam env p
  | .includes a b => Harmless env a ∧ Harmless env b
  | .junction _ a b => Harmless env a ∧ Harmless env b
  | .choose condition yes no =>
    Harmless env condition ∧ (Decides env condition (some true) → Harmless env yes) ∧
      (¬ Decides env condition (some true) → Harmless env no)
  | .whenever condition yes =>
    Harmless env condition ∧ (Decides env condition (some true) → Harmless env yes)
  | .someElement array condition =>
    Harmless env array ∧ ∀ d, eval env array = .ok (some d) →
      ∃ items, d = .json (.array items) ∧ ∀ j ∈ items, Harmless (env.lookingAt j) condition
  | .paren e => Harmless env e

/-! ## Faults of evaluation -/

/-- A computation has a value, or a fault that is found before a row is read. -/
def Tame {α : Type} (x : Except Fault α) : Prop := ∀ f, x = .error f → f.isLate = false

section Tame

variable {α β : Type} {x : Except Fault α} {f : α → Except Fault β}

theorem tame_ok (a : α) : Tame (.ok a) := fun _ h => by cases h

theorem tame_mismatch : Tame (α := α) (.error .mismatch) := fun _ h => by cases h; rfl

theorem Tame.bind (hx : Tame x) (hf : ∀ a, x = .ok a → Tame (f a)) : Tame (x >>= f) := by
  intro e he
  cases x with
  | error e' =>
    cases he
    exact hx _ rfl
  | ok a => exact hf a rfl e he

theorem Tame.mapM {as : List α} (hf : ∀ a ∈ as, Tame (f a)) : Tame (as.mapM f) := by
  induction as with
  | nil => exact tame_ok []
  | cons a as ih =>
    obtain ⟨ha, has⟩ := List.forall_mem_cons.1 hf
    rw [List.mapM_cons]
    exact ha.bind fun b _ => (ih has).bind fun bs _ => tame_ok _

theorem tame_strict {f : Datum → Except Fault (Option Datum)} {x : Option Datum}
    (h : ∀ d, x = some d → Tame (f d)) : Tame (strict f x) := by
  cases x with
  | none => exact tame_ok none
  | some d => exact h d rfl

theorem tame_jsonOf (d : Datum) : Tame (jsonOf d) := by
  cases d <;> first | exact tame_ok _ | exact tame_mismatch

theorem tame_textOf? (d : Datum) : Tame (textOf? d) := by
  cases d <;> first | exact tame_ok _ | exact tame_mismatch

theorem tame_truthOf (x : Option Datum) : Tame (truthOf x) := by
  rcases x with _ | d
  · exact tame_ok none
  · cases d <;> first | exact tame_ok _ | exact tame_mismatch

theorem tame_compareCells (engine : Engine) (bytewise : Bool) (op : Comparison)
    (a b : Option Datum) : Tame (Datum.compareCells engine bytewise op a b) := by
  rcases a with _ | a
  · exact tame_ok none
  rcases b with _ | b
  · exact tame_ok none
  cases h : Datum.holds? engine bytewise op a b with
  | none =>
    rw [Datum.compareCells, h]
    exact tame_mismatch
  | some holds =>
    rw [Datum.compareCells, h]
    exact tame_ok _

theorem tame_castTo {engine : Engine} {type : SqlType} {d : Datum}
    (h : Casts engine type (some d)) : Tame (d.castTo engine type) := by
  obtain ⟨d', hd⟩ := h d rfl
  rw [hd]
  exact tame_ok d'

theorem tame_likeTruth {negated : Bool} {s pattern : String}
    (h : Pattern.parts? pattern.toList ≠ none) : Tame (likeTruth negated s pattern) := by
  obtain ⟨parts, hparts⟩ := Option.ne_none_iff_exists'.1 h
  rw [likeTruth, hparts]
  exact tame_ok _

end Tame

section Evaluation

variable {env : Env}

theorem truthOf_eq_ok {x : Option Datum} {t : Truth} (h : truthOf x = .ok t) : x = ofTruth t := by
  rcases x with _ | d
  · cases h
    rfl
  · cases d with
    | bool b =>
      cases h
      rfl
    | _ => cases h

/-- What the condition of a `CASE` comes to. -/
theorem decides_true_iff {e : Expr} {x : Option Datum} {t : Truth} (hx : eval env e = .ok x)
    (ht : truthOf x = .ok t) : Decides env e (some true) ↔ t = some true := by
  unfold Decides
  rw [hx, truthOf_eq_ok ht, Except.ok.injEq]
  rcases t with _ | _ | _ <;> simp [ofTruth]

theorem HarmlessParam.tame {p : Param} (h : HarmlessParam env p) : Tame (env.param p) := by
  unfold Env.param
  cases ha : env.argument p.index with
  | none =>
    intro f hf
    cases hf
    rfl
  | some a =>
    cases htype : p.type with
    | none => exact tame_ok _
    | some type =>
      refine tame_strict fun d hd => ?_
      obtain ⟨d', hcast⟩ := h a type ha htype d hd
      rw [hcast]
      exact tame_ok _

/-! ## Compound expressions -/

section Compounds

variable {e a b condition yes no array : Expr}

/-- What looks at a document has a fault only where there is none. -/
theorem tame_ofJson {x : Except Fault (Option Datum)} (f : Json → Option Datum) (hx : Tame x) :
    Tame (x >>= strict fun d => do return f (← jsonOf d)) :=
  hx.bind fun _ _ => tame_strict fun d _ => (tame_jsonOf d).bind fun _ _ => tame_ok _

theorem tame_cast {type : SqlType} (he : Tame (eval env e))
    (hcast : ∀ x, eval env e = .ok x → Casts env.engine type x) :
    Tame (eval env (.cast e type)) := by
  rw [eval]
  refine he.bind fun x hx => tame_strict fun d hd => ?_
  have hvalue : Casts env.engine type (some d) := hd ▸ hcast x hx
  exact (tame_castTo hvalue).bind fun d' _ => tame_ok _

theorem tame_compare {op : Comparison} (ha : Tame (eval env a)) (hb : Tame (eval env b)) :
    Tame (eval env (.compare op a b)) := by
  rw [eval]
  exact ha.bind fun x _ => hb.bind fun y _ =>
    (tame_compareCells _ _ _ x y).bind fun t _ => tame_ok _

theorem tame_distinct (ha : Tame (eval env a)) (hb : Tame (eval env b)) :
    Tame (eval env (.distinct a b)) := by
  rw [eval]
  refine ha.bind fun x _ => hb.bind fun y _ => ?_
  rcases x with _ | x <;> rcases y with _ | y
  · exact tame_ok _
  · exact tame_ok _
  · exact tame_ok _
  · exact (tame_compareCells _ _ _ (some x) (some y)).bind fun t _ => tame_ok _

theorem tame_like {negated : Bool} (ha : Tame (eval env a)) (hb : Tame (eval env b))
    (hclosed : ∀ s, eval env b = .ok (some (.text s)) → Pattern.parts? s.toList ≠ none) :
    Tame (eval env (.like negated a b)) := by
  rw [eval]
  refine ha.bind fun x _ => hb.bind fun y hy => ?_
  rcases x with _ | x
  · exact tame_ok _
  rcases y with _ | y
  · exact tame_ok _
  refine (tame_textOf? x).bind fun s _ => (tame_textOf? y).bind fun t ht => ?_
  have hpattern : eval env b = .ok (some (.text t)) := by
    cases y with
    | text t' =>
      cases ht
      exact hy
    | _ => cases ht
  exact (tame_likeTruth (hclosed t hpattern)).bind fun t _ => tame_ok _

theorem tame_among {negated : Bool} {items : List Param} (he : Tame (eval env e))
    (hitems : ∀ p ∈ items, HarmlessParam env p) : Tame (eval env (.among negated e items)) := by
  rw [eval]
  refine he.bind fun x _ => Tame.bind (Tame.mapM fun p hp => ?_) fun ts _ => tame_ok _
  exact (hitems p hp).tame.bind fun y _ => tame_compareCells _ _ _ x y

theorem tame_includes (ha : Tame (eval env a)) (hb : Tame (eval env b)) :
    Tame (eval env (.includes a b)) := by
  rw [eval]
  refine ha.bind fun x _ => hb.bind fun y _ => ?_
  rcases x with _ | x
  · exact tame_ok _
  rcases y with _ | y
  · exact tame_ok _
  exact (tame_jsonOf x).bind fun i _ => (tame_jsonOf y).bind fun j _ => tame_ok _

theorem tame_junction {c : Conjunction} (ha : Tame (eval env a)) (hb : Tame (eval env b)) :
    Tame (eval env (.junction c a b)) := by
  rw [eval]
  exact ha.bind fun x _ => (tame_truthOf x).bind fun s _ =>
    hb.bind fun y _ => (tame_truthOf y).bind fun t _ => tame_ok _

theorem tame_choose (hcondition : Tame (eval env condition))
    (hyes : Decides env condition (some true) → Tame (eval env yes))
    (hno : ¬ Decides env condition (some true) → Tame (eval env no)) :
    Tame (eval env (.choose condition yes no)) := by
  rw [eval]
  refine hcondition.bind fun x hx => (tame_truthOf x).bind fun t ht => ?_
  have htaken := decides_true_iff hx ht
  by_cases htrue : t = some true
  · rw [if_pos htrue]
    exact hyes (htaken.2 htrue)
  · rw [if_neg htrue]
    exact hno fun hd => htrue (htaken.1 hd)

theorem tame_whenever (hcondition : Tame (eval env condition))
    (hyes : Decides env condition (some true) → Tame (eval env yes)) :
    Tame (eval env (.whenever condition yes)) := by
  rw [eval]
  refine hcondition.bind fun x hx => (tame_truthOf x).bind fun t ht => ?_
  by_cases htrue : t = some true
  · rw [if_pos htrue]
    exact hyes ((decides_true_iff hx ht).2 htrue)
  · rw [if_neg htrue]
    exact tame_ok _

theorem tame_someElement (harray : Tame (eval env array))
    (hitems : ∀ d, eval env array = .ok (some d) →
      ∃ items, d = .json (.array items) ∧ ∀ j ∈ items, Tame (eval (env.lookingAt j) condition)) :
    Tame (eval env (.someElement array condition)) := by
  rw [eval]
  refine harray.bind fun x hx => ?_
  rcases x with _ | d
  · exact tame_ok _
  obtain ⟨items, rfl, hitems⟩ := hitems d hx
  refine (tame_jsonOf _).bind fun j hj => ?_
  cases hj
  exact Tame.bind (Tame.mapM fun j hj => (hitems j hj).bind fun y _ => tame_truthOf y)
    fun ts _ => tame_ok _

end Compounds

/-- A harmless expression has a value on the row, or a fault that is found before any row is
read. -/
theorem Harmless.tame {e : Expr} (h : Harmless env e) : Tame (eval env e) := by
  -- For all environments, since a search in an array looks at one element after the other.
  induction e generalizing env with
  | truth b | column name | string s =>
    rw [eval]
    exact tame_ok _
  | element =>
    rw [eval]
    cases env.element with
    | none =>
      intro f hf
      cases hf
      rfl
    | some j => exact tame_ok _
  | param p =>
    rw [eval]
    exact HarmlessParam.tame h
  | member doc key ih | memberText doc key ih | wholeText doc ih | kind doc ih =>
    rw [eval]
    exact tame_ofJson _ (ih h)
  | cast e type ih => exact tame_cast (ih h.1) h.2
  | bytewise e ih | paren e ih =>
    rw [eval]
    exact ih h
  | compare op a b iha ihb => exact tame_compare (iha h.1) (ihb h.2)
  | isNull negated e ih =>
    rw [eval]
    exact (ih h).bind fun x _ => tame_ok _
  | distinct a b iha ihb => exact tame_distinct (iha h.1) (ihb h.2)
  | like negated e pattern ihe ihp => exact tame_like (ihe h.1) (ihp h.2.1) h.2.2
  | among negated e items ih => exact tame_among (ih h.1) h.2
  | includes a b iha ihb => exact tame_includes (iha h.1) (ihb h.2)
  | junction c a b iha ihb => exact tame_junction (iha h.1) (ihb h.2)
  | choose condition yes no ihc ihy ihn =>
    exact tame_choose (ihc h.1) (fun ht => ihy (h.2.1 ht)) fun ht => ihn (h.2.2 ht)
  | whenever condition yes ihc ihy => exact tame_whenever (ihc h.1) fun ht => ihy (h.2 ht)
  | someElement array condition iha ihc =>
    refine tame_someElement (iha h.1) fun d hd => ?_
    obtain ⟨items, hitems, hharmless⟩ := h.2 d hd
    exact ⟨items, hitems, fun j hj => ihc (hharmless j hj)⟩

end Evaluation

end Sql
end Sieve
