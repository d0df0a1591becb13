import Mathlib
import Sieve.Proofs.Sql.DocumentLeaf

/-!
# Sieve.Proofs.Sql.DocumentEquality

Equality and membership with texts and truth values at the end of a path. The database compares the
text of what stands there, the matcher the value itself. As long as numbers are cast exactly, the
two differ where a text or a truth value resembles the value, having its text without being it, and
no operand is the value: `compiled_equality_agrees_iff`, and `equality_of_digits_differs` for a
number and its digits.
-/

namespace Sieve

namespace Condition

/-- Equality with a text or a truth value, or membership in any list. -/
def IsEquality : Condition → Prop
  | .comparison op o => op.isOrdering = false ∧ o.scalar.isNumeric = false
  | .membership _ _ => True
  | .textual _ _ => False
  | .nullness _ => False

/-- Whether equality is denied. -/
def isNegated : Condition → Bool
  | .comparison .ne _ => true
  | .membership negated _ => negated
  | _ => false

theorem equal_other_comm {a b : Scalar} (hb : b.isNumeric = false) : a.equal b = b.equal a := by
  cases b with
  | bool b =>
    cases a with
    | bool a => exact Bool.beq_comm
    | _ => rfl
  | text t =>
    cases a with
    | text s => exact BEq.comm
    | _ => rfl
  | _ => cases hb

/-- An equality holds of a scalar if, negation aside, the scalar is one of the operands. -/
theorem holdsAt_of_isEquality {c : Condition} (hc : c.IsEquality) (actual : Scalar) :
    c.holdsAt actual = ((c.operands.any fun o => o.scalar.equal actual) != c.isNegated) := by
  cases c with
  | comparison op o =>
    obtain ⟨hop, ho⟩ := hc
    have hcomm := equal_other_comm (a := actual) ho
    cases op with
    | eq => simp [holdsAt, Comparison.holds, operands, isNegated, hcomm]
    | ne => simp [holdsAt, Comparison.holds, operands, isNegated, hcomm]
    | _ => cases hop
  | membership negated items => rfl
  | textual test o => exact hc.elim
  | nullness negated => exact hc.elim

end Condition

namespace Sql

section Resemblance

variable {engine : Engine} {inner : Option Json} {j : Json} {s : Scalar} {o : Operand}

/-- A text or a truth value that has the text of a document without being its value. -/
def Resembles (engine : Engine) (j : Json) (s : Scalar) : Prop :=
  s.isNumeric = false ∧ j.scalar? ≠ some s ∧ Datum.textOfJson engine j = some s.asText

/-- The database finds an operand equal to what stands at the end of a path: a number by what it is
cast to, all else by its text. -/
def Meets (engine : Engine) (inner : Option Json) (o : Operand) : Prop :=
  if o.scalar.isNumeric then
    ∃ p, inner.bind Json.number? = some p ∧ engine.number? o.scalar = some p
  else inner.bind (Datum.textOfJson engine) = some o.scalar.asText

/-- A document that is compared exactly with the operands of a condition: its integers are small if
there is a number among them. -/
def ComparesExactly (c : Condition) (j : Json) : Prop :=
  j.isComposite = false ∧
    ∀ n, j = .integer n → (∃ o ∈ c.operands, o.scalar.isNumeric = true) → FitsDouble n.val

theorem textOfJson_scalar (engine : Engine) (h : j.isComposite = false) :
    (Datum.textOfJson engine j).isSome = j.scalar?.isSome := by
  cases j with
  | array items => cases h
  | object members => cases h
  | integer n => cases hfit : n.toInt64? <;> simp [Json.scalar?, Value.ofJson?, hfit,
      Datum.textOfJson]
  | _ => rfl

theorem asText_of_scalar? (hs : j.scalar? = some s) (h : s.isNumeric = false) :
    Datum.textOfJson engine j = some s.asText := by
  cases j with
  | bool b => cases hs; rfl
  | text t => cases hs; rfl
  | integer n =>
    cases hfit : n.toInt64? <;> simp only [Json.scalar?, Value.ofJson?, hfit] at hs <;> cases hs <;>
      cases h
  | decimal x => cases hs; cases h
  | null => cases hs
  | array items => cases hitems : Value.ofJsonItems? items <;>
      simp [Json.scalar?, Value.ofJson?, hitems] at hs
  | object members => cases hs

/-- A text or a truth value equals only itself. -/
theorem equal_iff_of_other (h : o.scalar.isNumeric = false) :
    o.scalar.equal s = true ↔ s = o.scalar := by
  obtain ⟨a, ha⟩ := o
  cases a with
  | bool b =>
    cases s <;> simp [Scalar.equal, Scalar.number?]
    exact eq_comm
  | text t =>
    cases s <;> simp [Scalar.equal, Scalar.number?]
    exact eq_comm
  | _ => cases h

theorem integer?_of_scalar? {n : Integer64} (hs : (Json.integer n).scalar? = some s) :
    s.integer? = some n.val := by
  obtain ⟨v, hleast, hbelow⟩ := n
  by_cases hv : v < 2 ^ 63
  · have hval : (Int64.ofInt v).toInt = v := Int64.toInt_ofInt_of_le hleast hv
    simp only [Json.scalar?, Value.ofJson?, Integer64.toInt64?, hv, if_true] at hs
    cases hs
    rw [Scalar.integer?, hval]
  · have hlt : v.toNat < 2 ^ 64 := by omega
    have hnat : ((UInt64.ofNat v.toNat).toNat : Int) = v := by
      rw [UInt64.toNat_ofNat_of_lt' hlt]
      omega
    simp only [Json.scalar?, Value.ofJson?, Integer64.toInt64?, hv, if_false] at hs
    cases hs
    rw [Scalar.integer?, hnat]

theorem rational?_of_integer? {n : Int} (h : s.integer? = some n) : s.rational? = some (n : ℚ) := by
  cases s with
  | int m => cases h; rfl
  | uint m => cases h; simp [Scalar.rational?]
  | _ => cases h

/-- A document and its value write the same exact number, if any. -/
theorem number?_of_scalar? (hs : j.scalar? = some s) : j.number? = s.rational? := by
  cases j with
  | integer n => rw [rational?_of_integer? (integer?_of_scalar? hs), Json.number?]
  | array items =>
    cases hitems : Value.ofJsonItems? items <;> simp [Json.scalar?, Value.ofJson?, hitems] at hs
  | _ => cases hs <;> rfl

theorem isFinite_of_scalar? (hs : j.scalar? = some s) : s.isFinite = true := by
  cases j with
  | integer n =>
    have hint := integer?_of_scalar? hs
    cases s <;> first | rfl | cases hint
  | array items =>
    cases hitems : Value.ofJsonItems? items <;> simp [Json.scalar?, Value.ofJson?, hitems] at hs
  | _ => cases hs <;> rfl

theorem isExact_of_scalar? (hs : j.scalar? = some s)
    (h : ∀ n, j = .integer n → FitsDouble n.val) : s.IsExact := by
  intro m hm
  cases j with
  | integer n =>
    rw [integer?_of_scalar? hs, Option.some.injEq] at hm
    exact hm ▸ h n rfl
  | array items =>
    cases hitems : Value.ofJsonItems? items <;> simp [Json.scalar?, Value.ofJson?, hitems] at hs
  | _ => cases hs <;> cases hm

/-- The database finds an operand equal to a value that is it, and to one that it resembles. -/
theorem meets_iff (hs : j.scalar? = some s) (ho : CastsExactly engine o.scalar)
    (hexact : o.scalar.isNumeric = true → s.IsExact) :
    Meets engine (some j) o ↔ o.scalar.equal s = true ∨ Resembles engine j o.scalar := by
  unfold Meets Resembles
  cases hnum : o.scalar.isNumeric with
  | false =>
    rw [equal_iff_of_other hnum, hs]
    simp only [Bool.false_eq_true, if_false, Option.bind_some, true_and]
    constructor
    · intro htext
      by_cases heq : s = o.scalar
      · exact .inl heq
      · exact .inr ⟨fun h => heq (Option.some.inj h), htext⟩
    · rintro (rfl | ⟨-, htext⟩)
      · exact asText_of_scalar? hs hnum
      · exact htext
  | true =>
    obtain ⟨q, hq⟩ := rational?_operand hnum
    simp only [if_true, Option.bind_some, Bool.true_eq_false, false_and, or_false,
      number?_of_scalar? hs, ho.2, hq]
    cases hp : s.rational? with
    | some p =>
      rw [equal_number (hexact hnum) hp ho.1 hq, decide_eq_true_iff]
      simp [eq_comm]
    | none =>
      obtain ⟨x, hx⟩ := number?_some_of hnum
      obtain ⟨q', hq'⟩ | ⟨-, hother⟩ := Scalar.rational?_cases (isFinite_of_scalar? hs)
      · rw [hp] at hq'
        cases hq'
      · rw [(Scalar.equal_apart hx hother).2]
        simp

end Resemblance

/-- A condition comes out, and true exactly if something is the case. -/
def TrueWhen (env : Env) (e : Expr) (p : Prop) : Prop := ∃ t, Decides env e t ∧ (t = some true ↔ p)

section TrueWhen

variable {env : Env} {e f : Expr} {p q : Prop}

theorem TrueWhen.paren (h : TrueWhen env e p) : TrueWhen env (.paren e) p := by
  obtain ⟨t, ht, hiff⟩ := h
  exact ⟨t, decides_paren ht, hiff⟩

theorem TrueWhen.both (he : TrueWhen env e p) (hf : TrueWhen env f q) :
    TrueWhen env (both e f) (p ∧ q) := by
  obtain ⟨s, hs, hp⟩ := he
  obtain ⟨t, ht, hq⟩ := hf
  refine ⟨_, decides_junction .and hs ht, ?_⟩
  rw [Truth.join, Truth.and_eq_true, hp, hq]

theorem TrueWhen.either (he : TrueWhen env e p) (hf : TrueWhen env f q) :
    TrueWhen env (either e f) (p ∨ q) := by
  obtain ⟨s, hs, hp⟩ := he
  obtain ⟨t, ht, hq⟩ := hf
  refine ⟨_, decides_junction .or hs ht, ?_⟩
  rw [Truth.join, Truth.or_eq_true, hp, hq]

theorem TrueWhen.congr (h : TrueWhen env e p) (hpq : p ↔ q) : TrueWhen env e q := by
  obtain ⟨t, ht, hiff⟩ := h
  exact ⟨t, ht, hiff.trans hpq⟩

/-- An expression has one truth. -/
theorem decides_unique {s t : Truth} (hs : Decides env e s) (ht : Decides env e t) : s = t := by
  have h : ofTruth s = ofTruth t := Except.ok.inj (hs.symm.trans ht)
  cases s <;> cases t <;> simp_all [ofTruth]

theorem agrees_iff (h : TrueWhen env e p) (verdict : Bool) :
    Agrees env e verdict ↔ (p ↔ verdict = true) := by
  obtain ⟨t, ht, hiff⟩ := h
  constructor
  · rintro ⟨t', ht', hiff'⟩
    rw [decides_unique ht ht'] at hiff
    exact hiff.symm.trans hiff'
  · intro hp
    exact ⟨t, ht, hiff.trans hp⟩

end TrueWhen

section Test

variable {env : Env} {root : Expr} {content : Option Json} {path : List String} {c : Condition}
  {first : Nat} {items : List Operand}

/-- Comparisons of one value, which may be NULL, with the items of a list. -/
theorem any_compared {α : Type} {x : Option α} {f : α → Operand → Bool} :
    Truth.any (items.map fun o => x.map fun a => f a o) = some true ↔
      ∃ o ∈ items, ∃ a, x = some a ∧ f a o = true := by
  rw [Truth.any_eq_true, List.mem_map]
  simp only [Option.map_eq_some_iff]

theorem none_compared {α : Type} {x : Option α} {f : α → Operand → Bool} :
    Truth.not (Truth.any (items.map fun o => x.map fun a => f a o)) = some true ↔
      ∀ o ∈ items, ∃ a, x = some a ∧ f a o = false := by
  rw [Truth.not_eq_true, Truth.any_eq_false, List.forall_mem_map]
  simp only [Option.map_eq_some_iff]

/-- The text of each item against a text. -/
theorem text_truths {text : Option String} (hitems : ∀ o ∈ items, o.scalar.isNumeric = false)
    (hargs : env.Binds first (items.map fun o => documentArgument o.scalar)) :
    List.Forall₂ (fun p t => ∃ y, env.param p = .ok y ∧
        Datum.compareCells env.engine false .eq (text.map .text) y = .ok t)
      (paramsFrom first items.length none)
      (items.map fun o => text.map fun t => t == o.scalar.asText) := by
  induction items generalizing first with
  | nil => exact .nil
  | cons o items ih =>
    have hnum := hitems o (List.mem_cons_self ..)
    rw [List.map_cons, Env.binds_cons, documentArgument, hnum] at hargs
    have hparam : env.param ⟨first, none⟩ = .ok (some (.text o.scalar.asText)) := by
      simp only [Env.param, hargs.1]
      rfl
    refine .cons ⟨_, hparam, ?_⟩
      (ih (fun o ho => hitems o (List.mem_cons_of_mem _ ho)) hargs.2)
    cases text <;> rfl

theorem textAmong_true (path : List String) (h : Shows env root content)
    (hitems : ∀ o ∈ items, o.scalar.isNumeric = false)
    (hargs : env.Binds first (items.map fun o => documentArgument o.scalar)) :
    TrueWhen env (.among false (textAt root path) (paramsFrom first items.length none))
      (∃ o ∈ items, Meets env.engine (content.bind (·.follow path)) o) := by
  refine ⟨_, decides_among false (eval_textAt h path) (text_truths hitems hargs), ?_⟩
  simp only [Bool.false_eq_true, if_false]
  rw [any_compared]
  refine exists_congr fun o => and_congr_right fun ho => ?_
  simp only [Meets, hitems o ho, Bool.false_eq_true, if_false, beq_iff_eq]
  constructor
  · rintro ⟨t, ht, rfl⟩
    exact ht
  · exact fun ht => ⟨_, ht, rfl⟩

theorem textAmong_false (path : List String) (h : Shows env root content)
    (hitems : ∀ o ∈ items, o.scalar.isNumeric = false)
    (hargs : env.Binds first (items.map fun o => documentArgument o.scalar)) :
    TrueWhen env (.among true (textAt root path) (paramsFrom first items.length none))
      (∀ o ∈ items, ((content.bind (·.follow path)).bind
        (Datum.textOfJson env.engine)).isSome ∧
          ¬ Meets env.engine (content.bind (·.follow path)) o) := by
  refine ⟨_, decides_among true (eval_textAt h path) (text_truths hitems hargs), ?_⟩
  simp only [if_true]
  rw [none_compared]
  refine forall₂_congr fun o ho => ?_
  simp only [Meets, hitems o ho, Bool.false_eq_true, if_false, beq_eq_false_iff_ne]
  generalize (content.bind (·.follow path)).bind (Datum.textOfJson env.engine) = text
  cases text <;> simp

theorem numberAmong_true (path : List String) (h : Shows env root content)
    (hitems : ∀ o ∈ items, o.scalar.isNumeric = true)
    (hargs : env.Binds first (items.map fun o => documentArgument o.scalar)) :
    TrueWhen env
      (.among false (numberAt root path) (paramsFrom first items.length (some .numeric)))
      (∃ o ∈ items, Meets env.engine (content.bind (·.follow path)) o) := by
  refine ⟨_, decides_numberAmong h false hitems hargs, ?_⟩
  simp only [Bool.false_eq_true, if_false, memberTruths]
  rw [any_compared]
  refine exists_congr fun o => and_congr_right fun ho => ?_
  simp only [Meets, hitems o ho, if_true, beq_iff_eq]

/-- Where there is no number, none of the numbers of a list is met. -/
theorem numberAmong_false (path : List String) (h : Shows env root content)
    (hitems : ∀ o ∈ items, o.scalar.isNumeric = true)
    (hargs : env.Binds first (items.map fun o => documentArgument o.scalar)) :
    TrueWhen env
      (.paren (either (.isNull false (numberAt root path))
        (.among true (numberAt root path) (paramsFrom first items.length (some .numeric)))))
      (∀ o ∈ items, ¬ Meets env.engine (content.bind (·.follow path)) o) := by
  have hnone : TrueWhen env (.isNull false (numberAt root path))
      ((content.bind (·.follow path)).bind Json.number? = none) :=
    ⟨_, decides_noNumber h, by simp⟩
  have hamong : TrueWhen env
      (.among true (numberAt root path) (paramsFrom first items.length (some .numeric)))
      (∀ o ∈ items, ∃ p, (content.bind (·.follow path)).bind Json.number? = some p ∧
        (env.engine.number? o.scalar == some p) = false) := by
    refine ⟨_, decides_numberAmong h true hitems hargs, ?_⟩
    simp only [if_true, memberTruths]
    exact none_compared
  refine (hnone.either hamong).paren.congr ?_
  have hmeets : ∀ o ∈ items, (Meets env.engine (content.bind (·.follow path)) o ↔
      ∃ p, (content.bind (·.follow path)).bind Json.number? = some p ∧
        env.engine.number? o.scalar = some p) := fun o ho => by
    simp only [Meets, hitems o ho, if_true]
  rw [forall₂_congr fun o ho => not_congr (hmeets o ho)]
  generalize (content.bind (·.follow path)).bind Json.number? = number
  cases number <;> simp

theorem isSome_text_of_meets {inner : Option Json} {o : Operand}
    (h : Meets env.engine inner o) : (inner.bind (Datum.textOfJson env.engine)).isSome = true := by
  unfold Meets at h
  split at h
  · obtain ⟨p, hp, -⟩ := h
    obtain ⟨j, rfl, hj⟩ := Option.bind_eq_some_iff.1 hp
    obtain ⟨t, ht, -⟩ := Datum.numberOfText_textOfJson env.engine hj
    rw [Option.bind_some, ht]
    rfl
  · rw [h]
    rfl

theorem binds_append {as bs : List Argument} :
    env.Binds first (as ++ bs) ↔ env.Binds first as ∧ env.Binds (first + as.length) bs := by
  induction as generalizing first with
  | nil => simp [Env.Binds]
  | cons a as ih =>
    rw [List.cons_append, Env.binds_cons, Env.binds_cons, ih, List.length_cons, and_assoc,
      Nat.add_assoc, Nat.add_comm 1]

/-- Something stands at the end of the path, and an operand is met unless equality is denied. -/
def EqualityHolds (env : Env) (inner : Option Json) (c : Condition) : Prop :=
  (inner.bind (Datum.textOfJson env.engine)).isSome = true ∧
    ((∃ o ∈ c.operands, Meets env.engine inner o) ↔ c.isNegated = false)

theorem exists_items {p : Operand → Prop} :
    (∃ o ∈ items, p o) ↔ (∃ o ∈ numericItems items, p o) ∨ ∃ o ∈ otherItems items, p o := by
  simp only [numericItems, otherItems, List.mem_filter]
  constructor
  · rintro ⟨o, ho, hp⟩
    cases hnum : o.scalar.isNumeric with
    | true => exact .inl ⟨o, ⟨ho, hnum⟩, hp⟩
    | false => exact .inr ⟨o, ⟨ho, by simp [hnum]⟩, hp⟩
  · rintro (⟨o, ⟨ho, -⟩, hp⟩ | ⟨o, ⟨ho, -⟩, hp⟩)
    · exact ⟨o, ho, hp⟩
    · exact ⟨o, ho, hp⟩

section Membership

variable (h : Shows env root content)
  (hargs : env.Binds first (documentArguments (.membership false items)))

theorem numericItems_numeric : ∀ o ∈ numericItems items, o.scalar.isNumeric = true := by
  intro o ho
  exact (List.mem_filter.1 ho).2

theorem otherItems_other : ∀ o ∈ otherItems items, o.scalar.isNumeric = false := by
  intro o ho
  simpa using (List.mem_filter.1 ho).2

include h hargs in
theorem inListTest_true :
    TrueWhen env (documentTest root path (.membership false items) first)
      (EqualityHolds env (content.bind (·.follow path)) (.membership false items)) := by
  rw [documentArguments, List.map_append, binds_append, List.length_map] at hargs
  have hnumbers := numberAmong_true path h numericItems_numeric hargs.1
  have htexts := textAmong_true path h otherItems_other hargs.2
  have hany : TrueWhen env (documentTest root path (.membership false items) first)
      (∃ o ∈ items, Meets env.engine (content.bind (·.follow path)) o) := by
    rw [exists_items]
    simp only [documentTest, Bool.false_eq_true, if_false]
    cases hn : numericItems items with
    | nil =>
      cases ho : otherItems items with
      | nil => exact ⟨some false, decides_truth false, by simp⟩
      | cons o others =>
        rw [hn, ho] at htexts
        exact htexts.congr (by simp)
    | cons o numbers =>
      cases ho : otherItems items with
      | nil =>
        rw [hn] at hnumbers
        exact hnumbers.congr (by simp)
      | cons o' others =>
        rw [hn] at hnumbers htexts
        rw [ho] at htexts
        exact (hnumbers.either htexts).paren
  refine hany.congr ⟨fun hmet => ?_, fun heq => heq.2.2 rfl⟩
  obtain ⟨o, -, ho⟩ := id hmet
  exact ⟨isSome_text_of_meets ho, iff_of_true hmet rfl⟩

include h hargs in
theorem notInListTest_true :
    TrueWhen env (documentTest root path (.membership true items) first)
      (EqualityHolds env (content.bind (·.follow path)) (.membership true items)) := by
  rw [documentArguments, List.map_append, binds_append, List.length_map] at hargs
  have hpresent : TrueWhen env (.isNull true (textAt root path))
      (((content.bind (·.follow path)).bind (Datum.textOfJson env.engine)).isSome = true) :=
    ⟨_, decides_present h, by simp⟩
  have hnumbers := numberAmong_false path h numericItems_numeric hargs.1
  have htexts := textAmong_false path h otherItems_other hargs.2
  have hnone : TrueWhen env (documentTest root path (.membership true items) first)
      (((content.bind (·.follow path)).bind (Datum.textOfJson env.engine)).isSome = true ∧
        ¬ ∃ o ∈ items, Meets env.engine (content.bind (·.follow path)) o) := by
    rw [exists_items]
    simp only [documentTest, if_true]
    cases hn : numericItems items with
    | nil =>
      cases ho : otherItems items with
      | nil => exact hpresent.congr (by simp)
      | cons o others =>
        rw [hn, ho] at htexts
        refine (hpresent.both htexts).paren.congr ?_
        grind
    | cons o numbers =>
      cases ho : otherItems items with
      | nil =>
        rw [hn] at hnumbers
        refine (hpresent.both hnumbers).paren.congr ?_
        grind
      | cons o' others =>
        rw [hn] at hnumbers htexts
        rw [ho] at htexts
        refine ((hpresent.both hnumbers).both htexts).paren.congr ?_
        grind
  refine hnone.congr (and_congr_right fun _ => ?_)
  simp [Condition.operands, Condition.isNegated]

end Membership

theorem comparisonTest_true (h : Shows env root content) {op : Comparison} {o : Operand}
    (hop : op.isOrdering = false) (hnum : o.scalar.isNumeric = false)
    (hargs : env.Binds first (documentArguments (.comparison op o))) :
    TrueWhen env (documentTest root path (.comparison op o) first)
      (EqualityHolds env (content.bind (·.follow path)) (.comparison op o)) := by
  have harg : env.argument first = some (.text o.scalar.asText) := by
    have := (Env.binds_cons.1 hargs).1
    rwa [documentArgument, hnum] at this
  have htest : documentTest root path (.comparison op o) first =
      .compare op (textAt root path) (textParam first) := by
    simp [documentTest, documentComparison, hop, hnum]
  rw [htest]
  refine ⟨((content.bind (·.follow path)).bind (Datum.textOfJson env.engine)).map fun s =>
    Datum.textsHold env.engine ((textAt root path).isBytewise || (textParam first).isBytewise) op s
      o.scalar.asText, decides_compare (eval_textAt h path) (eval_textParam harg) ?_, ?_⟩
  · generalize (content.bind (·.follow path)).bind (Datum.textOfJson env.engine) = text
    cases text <;> rfl
  · simp only [EqualityHolds, Condition.operands, List.mem_singleton, exists_eq_left, Meets, hnum,
      Bool.false_eq_true, if_false]
    generalize (content.bind (·.follow path)).bind (Datum.textOfJson env.engine) = text
    cases op with
    | eq => cases text <;> simp [Datum.textsHold_eq, Condition.isNegated]
    | ne => cases text <;> simp [Datum.textsHold_ne, Condition.isNegated]
    | _ => cases hop

/-- What the database decides by the compiled test of an equality. -/
theorem equalityTest_true (path : List String) (h : Shows env root content) (hc : c.IsEquality)
    (hargs : env.Binds first (documentArguments c)) :
    TrueWhen env (documentTest root path c first)
      (EqualityHolds env (content.bind (·.follow path)) c) := by
  cases c with
  | comparison op o => exact comparisonTest_true h hc.1 hc.2 hargs
  | membership negated items =>
    cases negated with
    | false => exact inListTest_true h hargs
    | true => exact notInListTest_true h hargs
  | textual test o => exact hc.elim
  | nullness negated => exact hc.elim

/-- What the matcher decides of an equality. -/
theorem holds_iff_of_isEquality (env : Env) {inner : Option Json} (hc : c.IsEquality)
    (hatomic : ∀ j, inner = some j → j.isComposite = false) :
    c.holds (foundAt inner) = true ↔
      (inner.bind (Datum.textOfJson env.engine)).isSome = true ∧
        ∃ s, inner.bind Json.scalar? = some s ∧
          ((∃ o ∈ c.operands, o.scalar.equal s = true) ↔ c.isNegated = false) := by
  have hsome : (inner.bind (Datum.textOfJson env.engine)).isSome =
      (inner.bind Json.scalar?).isSome := by
    cases inner with
    | none => rfl
    | some j => exact textOfJson_scalar _ (hatomic j rfl)
  rw [hsome]
  cases hs : inner.bind Json.scalar? with
  | none =>
    rw [foundAt, hs, Found.ofScalar?, holds_null]
    refine iff_of_false ?_ (by simp)
    cases c with
    | nullness negated => exact hc.elim
    | _ => simp [Condition.operator]
  | some s =>
    rw [foundAt, hs, Found.ofScalar?, holds_scalar, Condition.holdsAt_of_isEquality hc]
    simp only [Option.isSome_some, true_and, Option.some.injEq, exists_eq_left']
    rw [← List.any_eq_true]
    cases c.operands.any (fun o => o.scalar.equal s) <;> cases c.isNegated <;> decide

/-- The test of an equality agrees with the matcher exactly if the database meets an operand where
the matcher finds one equal, and only there. -/
theorem equalityTest_agrees_iff (h : Shows env root content) (hc : c.IsEquality)
    (hargs : env.Binds first (documentArguments c))
    (hend : ∀ j, content.bind (·.follow path) = some j → ComparesExactly c j) :
    Agrees env (documentTest root path c first)
        (c.holds (foundAt (content.bind (·.follow path)))) ↔
      ∀ j s, content.bind (·.follow path) = some j → j.scalar? = some s →
        ((∃ o ∈ c.operands, Meets env.engine (some j) o) ↔
          ∃ o ∈ c.operands, o.scalar.equal s = true) := by
  have htest := equalityTest_true path h hc hargs
  have hholds := holds_iff_of_isEquality env hc fun j hj => (hend j hj).1
  rw [agrees_iff htest, hholds, EqualityHolds]
  generalize content.bind (·.follow path) = inner at hend ⊢
  rcases inner with _ | j
  · simp
  have htext := textOfJson_scalar env.engine (hend j rfl).1
  cases hs : j.scalar? with
  | none =>
    refine iff_of_true (by simp [hs, htext]) ?_
    rintro j' s ⟨⟩ hs'
    rw [hs] at hs'
    cases hs'
  | some s =>
    rw [hs] at htext
    simp only [Option.bind_some, htext, Option.isSome_some, true_and, hs, Option.some.injEq,
      exists_eq_left']
    grind

/-- If operands are cast exactly, the database meets those that are equal to what is compared and
those that resemble it. -/
theorem exists_meets_iff {j : Json} {s : Scalar}
    (hcast : ∀ o ∈ c.operands, CastsExactly env.engine o.scalar) (hj : ComparesExactly c j)
    (hs : j.scalar? = some s) :
    (∃ o ∈ c.operands, Meets env.engine (some j) o) ↔
      (∃ o ∈ c.operands, o.scalar.equal s = true) ∨
        ∃ o ∈ c.operands, Resembles env.engine j o.scalar := by
  simp only [← exists_or, ← and_or_left]
  refine exists_congr fun o => and_congr_right fun ho => ?_
  exact meets_iff hs (hcast o ho) fun hnum =>
    isExact_of_scalar? hs fun n hn => hj.2 n hn ⟨o, ho, hnum⟩

end Test

/-- The compiled condition of an equality on a column of documents agrees with the matcher exactly
if the database meets an operand where the matcher finds one equal, and only there. If it casts the
operands exactly, that is to say: wherever an operand resembles what stands at the end of the path,
some operand is equal to it. -/
theorem compiled_equality_agrees_iff {env : Env} {catalog : Catalog} {l : Leaf} {first : Nat}
    {content : Option Json} {e : Entity}
    (hkind : catalog.kind? (catalog.columnFor l.field.root) = some .scalar)
    (hlower : l.field.nested.map Text.lower = l.field.nested)
    (hrow : env.row (catalog.columnFor l.field.root) = content.map .json)
    (hargs : env.Binds first (compileFrom catalog (.leaf l) first).arguments)
    (hway : ∀ j, content = some j → j.NoArrayOn l.field.nested)
    (hend : ∀ j, content.bind (·.follow l.field.nested) = some j → ComparesExactly l.condition j)
    (hentity : Carries l.field.root content e) (hequality : l.condition.IsEquality) :
    (Agrees env (compileFrom catalog (.leaf l) first).condition ((Predicate.leaf l).holds e) ↔
      ∀ j s, content.bind (·.follow l.field.nested) = some j → j.scalar? = some s →
        ((∃ o ∈ l.condition.operands, Meets env.engine (some j) o) ↔
          ∃ o ∈ l.condition.operands, o.scalar.equal s = true)) ∧
    ((∀ o ∈ l.condition.operands, CastsExactly env.engine o.scalar) →
      (Agrees env (compileFrom catalog (.leaf l) first).condition ((Predicate.leaf l).holds e) ↔
        ∀ j s, content.bind (·.follow l.field.nested) = some j → j.scalar? = some s →
          (∃ o ∈ l.condition.operands, Resembles env.engine j o.scalar) →
          ∃ o ∈ l.condition.operands, o.scalar.equal s = true)) := by
  have hshows : Shows env (.column (catalog.columnFor l.field.root)) content := by
    unfold Shows
    rw [eval, hrow]
  have htarget := targetOf_of_kind hkind
  rw [hlower] at htarget
  have hdoc : env.Binds first (documentArguments l.condition) := by
    rw [← leafArguments_of_kind hkind]
    simpa only [compileFrom, arguments] using hargs
  have hfound : Entity.findings l.field.nested (.ofContent content) =
      [foundAt (content.bind (·.follow l.field.nested))] := by
    cases content with
    | none => exact Entity.findings_null _
    | some j => exact findings_of_atomicEnd (hway j rfl) fun inner hinner => (hend inner hinner).1
  have hagrees : Agrees env (compileFrom catalog (.leaf l) first).condition
        ((Predicate.leaf l).holds e) ↔
      ∀ j s, content.bind (·.follow l.field.nested) = some j → j.scalar? = some s →
        ((∃ o ∈ l.condition.operands, Meets env.engine (some j) o) ↔
          ∃ o ∈ l.condition.operands, o.scalar.equal s = true) := by
    rw [Predicate.holds, holds_of_carries hentity, hfound, List.any_cons, List.any_nil,
      Bool.or_false]
    simp only [compileFrom, test, leafTest, htarget]
    exact equalityTest_agrees_iff hshows hequality hdoc hend
  refine ⟨hagrees, fun hcast => hagrees.trans ?_⟩
  refine forall₂_congr fun j s => forall₂_congr fun hj hs => ?_
  rw [exists_meets_iff hcast (hend j hj) hs]
  exact ⟨fun h hr => h.1 (.inr hr), fun h => ⟨fun hor => hor.elim id h, .inl⟩⟩

/-- The leaf `metadata.replicas IN (3, "3")`. -/
def replicasAmong : Leaf where
  field := ⟨"metadata.replicas", by decide +kernel⟩
  condition := .membership false [⟨.int 3, rfl⟩, ⟨.text "3", rfl⟩]

/-- The document `{"replicas": 3}`. -/
def threeReplicas : Json := .object [("replicas", .integer ⟨3, by decide, by decide⟩)]

/-- A text that resembles the number does no harm next to the number itself. -/
theorem compiled_equality_agrees_iff_replicas :
    let catalog := Catalog.empty.withDocument "metadata" .scalar
    let compiled := compileFrom catalog (.leaf replicasAmong) 1
    Agrees (rowEnv "metadata" (.json threeReplicas) compiled.arguments) compiled.condition
      ((Predicate.leaf replicasAmong).holds (.map [("metadata", .ofJson threeReplicas)])) := by
  intro catalog compiled
  have hnested : replicasAmong.field.nested = ["replicas"] := by decide +kernel
  have hroot : replicasAmong.field.root = "metadata" := by decide +kernel
  have hcolumn : catalog.columnFor replicasAmong.field.root = "metadata" := by decide +kernel
  have hkind : catalog.kind? (catalog.columnFor replicasAmong.field.root) = some .scalar := by
    rw [hcolumn]
    decide +kernel
  have hrow : (rowEnv "metadata" (.json threeReplicas) compiled.arguments).row
      (catalog.columnFor replicasAmong.field.root) = (some threeReplicas).map .json := by
    rw [hcolumn]
    simp [rowEnv]
  have hway : ∀ j, some threeReplicas = some j → j.NoArrayOn replicasAmong.field.nested := by
    rintro j ⟨⟩
    rw [hnested]
    simp [threeReplicas, Json.NoArrayOn]
  have hfollow : (some threeReplicas).bind (·.follow replicasAmong.field.nested) =
      some (.integer ⟨3, by decide, by decide⟩) := by
    rw [hnested]
    rfl
  have hend : ∀ j, (some threeReplicas).bind (·.follow replicasAmong.field.nested) = some j →
      ComparesExactly replicasAmong.condition j := by
    rw [hfollow]
    rintro j ⟨⟩
    refine ⟨rfl, ?_⟩
    rintro n ⟨⟩ -
    decide
  have hentity : Carries replicasAmong.field.root (some threeReplicas)
      (.map [("metadata", .ofJson threeReplicas)]) := by
    rw [hroot]
    exact .inl rfl
  have hcast : ∀ o ∈ replicasAmong.condition.operands, CastsExactly plainEngine o.scalar := by
    intro o ho
    simp only [replicasAmong, Condition.operands, List.mem_cons, List.not_mem_nil, or_false] at ho
    rcases ho with rfl | rfl
    · refine ⟨fun n hn => ?_, rfl⟩
      cases hn
      decide
    · refine ⟨fun n hn => ?_, rfl⟩
      cases hn
  refine ((compiled_equality_agrees_iff hkind (by decide +kernel) hrow (rowEnv_binds _ _ _) hway
    hend hentity trivial).2 hcast).2 ?_
  rw [hfollow]
  rintro j s ⟨⟩ hs -
  cases hs
  exact ⟨⟨.int 3, rfl⟩, List.mem_cons_self .., by decide +kernel⟩

/-- The leaf `metadata.replicas = "3"`. -/
def replicasDigits : Leaf where
  field := ⟨"metadata.replicas", by decide +kernel⟩
  condition := .comparison .eq ⟨.text "3", rfl⟩

/-- The database takes a number for the text of its digits, the matcher does not. -/
theorem equality_of_digits_differs :
    let catalog := Catalog.empty.withDocument "metadata" .scalar
    let compiled := compileFrom catalog (.leaf replicasDigits) 1
    (Predicate.leaf replicasDigits).holds (.map [("metadata", .ofJson threeReplicas)]) = false ∧
      eval (rowEnv "metadata" (.json threeReplicas) compiled.arguments) compiled.condition =
        .ok (some (.bool true)) := by
  intro catalog compiled
  refine ⟨by decide +kernel, ?_⟩
  have hshows : Shows (rowEnv "metadata" (.json threeReplicas) compiled.arguments)
      (.column "metadata") (some threeReplicas) := by
    unfold Shows
    simp [eval, rowEnv]
  have hcondition : compiled.condition =
      .compare .eq (textAt (.column "metadata") ["replicas"]) (textParam 1) := by
    decide +kernel
  have hkind : catalog.kind? (catalog.columnFor replicasDigits.field.root) = some .scalar := by
    decide +kernel
  have hfirst : compiled.arguments[0]? = some (.text "3") := by
    simp only [compiled, compileFrom, arguments, leafArguments_of_kind hkind]
    rfl
  have harg := rowEnv_binds "metadata" (.json threeReplicas) compiled.arguments 0 _ hfirst
  rw [hcondition]
  exact decides_compare (eval_textAt hshows ["replicas"]) (eval_textParam harg) rfl

end Sql
end Sieve
