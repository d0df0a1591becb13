import Mathlib
import Sieve.Proofs.Json.LowerKeys
import Sieve.Proofs.Matching.Leaves
import Sieve.Proofs.Sql.ColumnLeaf

/-!
# Sieve.Proofs.Sql.IntegerLeaf

Leaves that ask how an integer compares with others, of up to 64 bits each. The matcher answers for
the nearest binary64 numbers, so that integers beyond 53 bits may count as equal to their
neighbours; the compiled condition answers for the integers themselves: `integerLeaf_answers`.

* `IntegerTest` is the question, `IntegerTest.answer` the answer in an order of integers.
* `Content` is what a column holds, for the matcher and in the database; `IntegersAt` tells the
  integers in it.
-/

namespace Sieve

theorem any_of_forall₂ {α β : Type} {p : α → Bool} {q : β → Bool} {as : List α} {bs : List β}
    (h : List.Forall₂ (fun a b => p a = q b) as bs) : as.any p = bs.any q := by
  induction h with
  | nil => rfl
  | cons hab _ ih => rw [List.any_cons, List.any_cons, hab, ih]

/-- A question about an integer: how it compares with another one, or whether it is among some. -/
inductive IntegerTest where
  | comparison (op : Comparison) (n : Int)
  | membership (negated : Bool) (ns : List Int)

namespace IntegerTest

def operands : IntegerTest → List Int
  | .comparison _ n => [n]
  | .membership _ ns => ns

/-- The answer for an integer that is ordered to each operand in the given way. -/
def answer (order : Int → Ordering) : IntegerTest → Bool
  | .comparison op n => Sql.Datum.holdsInOrder op (order n)
  | .membership negated ns => (ns.any fun n => order n == .eq) != negated

theorem answer_congr {t : IntegerTest} {f g : Int → Ordering} (h : ∀ n ∈ t.operands, f n = g n) :
    t.answer f = t.answer g := by
  cases t with
  | comparison op n => rw [answer, answer, h n (List.mem_singleton_self n)]
  | membership negated ns =>
    rw [answer, answer, any_of_forall₂ (List.forall₂_same.2 fun n hn => by rw [h n hn])]

end IntegerTest

/-! ## The matcher -/

/-- The operands of a list are integers, of either kind. -/
abbrev Operand.AreIntegers : List Operand → List Int → Prop :=
  List.Forall₂ fun o n => o.scalar.integer? = some n

/-- A condition asks a question about integers. -/
inductive Condition.Asks : Condition → IntegerTest → Prop where
  | comparison (op : Comparison) {o : Operand} {n : Int} (operand : o.scalar.integer? = some n) :
      Asks (.comparison op o) (.comparison op n)
  | membership (negated : Bool) {items : List Operand} {ns : List Int}
      (operands : Operand.AreIntegers items ns) :
      Asks (.membership negated items) (.membership negated ns)

open Binary64 (roundedOrder)

theorem Condition.Asks.natAbs_le {c : Condition} {t : IntegerTest} (h : c.Asks t) :
    ∀ n ∈ t.operands, n.natAbs ≤ 2 ^ 64 := by
  cases h with
  | comparison op hn => exact List.forall_mem_singleton.2 (Scalar.natAbs_of_integer? hn)
  | membership negated hns =>
    induction hns with
    | nil => simp [IntegerTest.operands]
    | cons hn _ ih => exact List.forall_mem_cons.2 ⟨Scalar.natAbs_of_integer? hn, ih⟩

theorem Condition.Asks.holdsAt {c : Condition} {t : IntegerTest} {s : Scalar} {m : Int}
    (h : c.Asks t) (hm : s.integer? = some m) : c.holdsAt s = t.answer (roundedOrder m) := by
  cases h with
  | comparison op hn =>
    rw [Condition.holdsAt, Scalar.equal_integers hm hn, Scalar.compare?_integers hm hn]
    rfl
  | membership negated hns =>
    have hitems := hns.imp fun o n hn =>
      (Scalar.equal_integers hn hm).trans (Binary64.roundedOrder_beq_comm n m)
    rw [Condition.holdsAt, IntegerTest.answer, any_of_forall₂ hitems]

/-- The findings are the given integers. -/
abbrev Found.AreIntegers : List Found → List Int → Prop :=
  List.Forall₂ fun f m => ∃ s, f = .scalar s ∧ s.integer? = some m

namespace Json

/-- A path through objects ends in an integer. -/
def EndsIn (path : List String) (j : Json) (k : Integer64) : Prop :=
  j.NoArrayOn path ∧ j.follow path = some (.integer k)

/-- The path, in lower case, ends in an integer of the document as it is stored. -/
def StoredEndsIn (path : List String) (j : Json) (k : Integer64) : Prop :=
  j.lowerKeys.follow (path.map Text.lower) = some (.integer k)

variable {path : List String} {j : Json} {k : Integer64}

theorem Leads.endsIn (h : j.Leads path (.integer k)) : j.EndsIn path k :=
  ⟨h.noArrayOn, h.followed⟩

theorem Leads.storedEndsIn (h : j.Leads path (.integer k)) : j.StoredEndsIn path k := by
  rw [StoredEndsIn, follow_lowerKeys h, lowerKeys_of_atomic rfl]

end Json

/-- A path that ends in an integer finds it alone. -/
theorem Entity.findings_of_endsIn {path : List String} {j : Json} {k : Integer64}
    (h : j.EndsIn path k) :
    ∃ s, findings path (.ofJson j) = [.scalar s] ∧ s.integer? = some k.val := by
  obtain ⟨s, hs⟩ : ∃ s, (Json.integer k).scalar? = some s := by
    cases hfit : k.toInt64? <;> exact ⟨_, by rw [Json.scalar?, Value.ofJson?, hfit]⟩
  refine ⟨s, ?_, Sql.integer?_of_scalar? hs⟩
  rw [findings_ofJson h.1, h.2]
  exact (findings_nil_of_atomic rfl).trans (by rw [hs, Found.ofScalar?])

namespace Sql

/-! ## What a column holds -/

inductive Content where
  | cell (s : Scalar)
  | document (j : Json)

namespace Content

/-- The content as the matcher looks at it. -/
def entity : Content → Entity
  | .cell s => .leaf s
  | .document j => .ofJson j

/-- The content as it is stored. -/
def stored : Content → Argument
  | .cell s => .ofScalar s
  | .document j => .document j

end Content

/-- A column holds integers, told the kind of its documents if it is for documents, and what it
means that a document reaches an integer: the column is plain and holds one, its document reaches
one, or each element of its array does. -/
inductive IntegersAt (reaches : Json → Integer64 → Prop) :
    Option DocumentKind → Content → List Int → Prop where
  | cell {s : Scalar} {m : Int} (integer : s.integer? = some m) :
      IntegersAt reaches none (.cell s) [m]
  | document {kind : DocumentKind} {j : Json} {k : Integer64}
      (allowed : kind = .scalar ∨ kind = .unknown) (reached : reaches j k) :
      IntegersAt reaches (some kind) (.document j) [k.val]
  | elements {kind : DocumentKind} {items : List Json} {ks : List Integer64}
      (allowed : kind ≠ .scalar) (reached : List.Forall₂ reaches items ks) :
      IntegersAt reaches (some kind) (.document (.array items)) (ks.map (·.val))

section Matcher

variable {reaches reaches' : Json → Integer64 → Prop} {kind : Option DocumentKind}
  {content : Content} {ms : List Int}

theorem IntegersAt.imp (himp : ∀ j k, reaches j k → reaches' j k)
    (h : IntegersAt reaches kind content ms) : IntegersAt reaches' kind content ms := by
  cases h with
  | cell hs => exact .cell hs
  | document allowed reached => exact .document allowed (himp _ _ reached)
  | elements allowed reached => exact .elements allowed (reached.imp himp)

theorem IntegersAt.natAbs_le (h : IntegersAt reaches kind content ms) :
    ∀ m ∈ ms, m.natAbs ≤ 2 ^ 64 := by
  have hfits : ∀ k : Integer64, k.val.natAbs ≤ 2 ^ 64 := fun k => by
    have := k.least
    have := k.below
    omega
  cases h with
  | cell hs => exact List.forall_mem_singleton.2 (Scalar.natAbs_of_integer? hs)
  | document allowed reached => exact List.forall_mem_singleton.2 (hfits _)
  | elements allowed reached => exact List.forall_mem_map.2 fun k _ => hfits k

variable {catalog : Catalog} {l : Leaf}

theorem nested_of_plain (h : (targetOf catalog l).kind = none) : l.field.nested = [] := by
  rw [targetOf, Option.or_eq_none_iff] at h
  by_contra hne
  have hpath : (l.field.nested.map Text.lower).isEmpty = false := by
    rwa [List.isEmpty_eq_false_iff, Ne, List.map_eq_nil_iff]
  rw [hpath] at h
  cases h.2

theorem findings_of_integersAt
    (h : IntegersAt (Json.EndsIn l.field.nested) (targetOf catalog l).kind content ms) :
    Found.AreIntegers (Entity.findings l.field.nested content.entity) ms := by
  -- The cases of `h` determine the kind, so it has to be a variable.
  generalize hkind : (targetOf catalog l).kind = kind at h
  cases h with
  | @cell s m hs =>
    have hfound : Entity.findings [] (.leaf s) = [.scalar s] := by
      simp [Entity.findings, Entity.resolve, Entity.itemFindings]
    rw [nested_of_plain hkind, Content.entity, hfound]
    exact .cons ⟨s, rfl, hs⟩ .nil
  | document allowed hends =>
    obtain ⟨s, hfound, hs⟩ := Entity.findings_of_endsIn hends
    rw [Content.entity, hfound]
    exact .cons ⟨s, rfl, hs⟩ .nil
  | elements allowed hends =>
    rw [Content.entity, Entity.findings_items]
    clear hkind
    induction hends with
    | nil => exact .nil
    | cons hends _ ih =>
      obtain ⟨s, hfound, hs⟩ := Entity.findings_of_endsIn hends
      rw [List.flatMap_cons, hfound, List.map_cons]
      exact .cons ⟨s, rfl, hs⟩ ih

theorem holds_of_integersAt {t : IntegerTest} {e : Entity} (hasks : l.condition.Asks t)
    (hms : IntegersAt (Json.EndsIn l.field.nested) (targetOf catalog l).kind content ms)
    (he : e.child? l.field.root = some content.entity) :
    (Predicate.leaf l).holds e = ms.any fun m => t.answer (roundedOrder m) := by
  have hfindings : e.findings l.field.segments = content.entity.findings l.field.nested := by
    rw [FieldPath.segments_eq, Entity.findings_eq_leaves, Entity.leaves_of_child he,
      Entity.findings_eq_leaves]
  rw [Predicate.holds, Leaf.holds, hfindings]
  refine any_of_forall₂ ((findings_of_integersAt hms).imp fun f m hm => ?_)
  obtain ⟨s, rfl, hs⟩ := hm
  exact hasks.holdsAt hs

end Matcher

/-! ## The database -/

/-- A value of the database is an integer, be it a `bigint` or a `numeric`. -/
inductive Datum.IsInteger (n : Int) : Datum → Prop where
  | integer : IsInteger n (.integer n)
  | numeric : IsInteger n (.numeric n)

section Tests

variable {env : Env} {e f : Expr} {x y : Datum} {m n : Int} {s : Scalar} {index first : Nat}
  {type : Option SqlType} {items : List Operand} {ns : List Int}

theorem holds?_integers (engine : Engine) (bytewise : Bool) (op : Comparison)
    (hx : x.IsInteger m) (hy : y.IsInteger n) :
    Datum.holds? engine bytewise op x y = some (Datum.holdsInOrder op (compare m n)) := by
  cases hx <;> cases hy <;> simp only [Datum.holds?, compare_intCast]

/-- A bound integer may be cast to `numeric`. -/
theorem param_integer (htype : type = none ∨ type = some .numeric)
    (harg : env.argument index = some (.ofScalar s)) (hs : s.integer? = some n)
    (hfits : FitsSigned n) : ∃ y, env.param ⟨index, type⟩ = .ok (some y) ∧ y.IsInteger n := by
  rcases htype with rfl | rfl
  · exact ⟨_, by simp only [Env.param, harg, datum?_integer hs hfits], .integer⟩
  · refine ⟨.numeric n, ?_, .numeric⟩
    simp only [Env.param, harg, datum?_integer hs hfits, strict, Datum.castTo, Except.map]

theorem decides_integerCompare (op : Comparison) (he : eval env e = .ok (some x))
    (hx : x.IsInteger m) (hf : eval env f = .ok (some y)) (hy : y.IsInteger n) :
    Decides env (.compare op e f) (some (Datum.holdsInOrder op (compare m n))) :=
  decides_compare he hf (by simp only [Datum.compareCells, holds?_integers _ _ op hx hy])

theorem integer_truths (htype : type = none ∨ type = some .numeric) (hx : x.IsInteger m)
    (hitems : Operand.AreIntegers items ns)
    (hargs : env.Binds first (items.map fun o => .ofScalar o.scalar))
    (hfits : ∀ n ∈ ns, FitsSigned n) :
    List.Forall₂ (fun p t => ∃ y, env.param p = .ok y ∧
        Datum.compareCells env.engine false .eq (some x) y = .ok t)
      (paramsFrom first items.length type) (ns.map fun n => some (compare m n == .eq)) := by
  induction hitems generalizing first with
  | nil => exact .nil
  | cons hs _ ih =>
    obtain ⟨hfit, hfits⟩ := List.forall_mem_cons.1 hfits
    rw [List.map_cons, Env.binds_cons] at hargs
    obtain ⟨y, hparam, hy⟩ := param_integer htype hargs.1 hs hfit
    refine .cons ⟨_, hparam, ?_⟩ (ih hargs.2 hfits)
    simp only [Datum.compareCells, holds?_integers _ _ _ hx hy]
    rfl

theorem decides_integerAmong (negated : Bool) (he : eval env e = .ok (some x))
    (hx : x.IsInteger m) (htype : type = none ∨ type = some .numeric)
    (hitems : Operand.AreIntegers items ns)
    (hargs : env.Binds first (items.map fun o => .ofScalar o.scalar))
    (hfits : ∀ n ∈ ns, FitsSigned n) :
    Decides env (.among negated e (paramsFrom first items.length type))
      (some ((IntegerTest.membership negated ns).answer (compare m))) := by
  have h := decides_among negated he (integer_truths htype hx hitems hargs hfits)
  rw [Truth.any_map_some] at h
  rw [IntegerTest.answer]
  cases negated with
  | false => rwa [if_neg Bool.false_ne_true, ← Bool.bne_false (ns.any _)] at h
  | true => rwa [if_pos rfl, Truth.not, Option.map_some, ← Bool.bne_true (ns.any _)] at h

variable {c : Condition} {t : IntegerTest}

/-- The test of a plain column that holds an integer. -/
theorem decides_columnIntegers {column : String} (hasks : c.Asks t)
    (hrow : env.row column = some x) (hx : x.IsInteger m)
    (hargs : env.Binds first (columnArguments c)) (hfits : ∀ n ∈ t.operands, FitsSigned n) :
    Decides env (columnTest column c first) (some (t.answer (compare m))) := by
  have hcolumn : eval env (.column column) = .ok (some x) := by rw [eval, hrow]
  cases hasks with
  | comparison op hs =>
    obtain ⟨y, hparam, hy⟩ := param_integer (.inl rfl) (Env.binds_cons.1 hargs).1 hs
      (hfits _ (List.mem_singleton_self _))
    exact decides_integerCompare op hcolumn hx (by rw [textParam, eval, hparam]) hy
  | membership negated hitems =>
    have hamong := decides_integerAmong negated hcolumn hx (.inl rfl) hitems hargs hfits
    cases hitems with
    | nil =>
      cases negated with
      | false => exact decides_truth false
      | true => exact decides_isNull true hcolumn
    | cons _ _ => cases negated <;> exact hamong

theorem isNumeric_of_integer? (hs : s.integer? = some n) : s.isNumeric = true :=
  Scalar.isNumeric_of_rational? (rational?_of_integer? hs)

theorem areNumeric (hitems : Operand.AreIntegers items ns) :
    ∀ o ∈ items, o.scalar.isNumeric = true := by
  induction hitems with
  | nil => simp
  | cons hs _ ih => exact List.forall_mem_cons.2 ⟨isNumeric_of_integer? hs, ih⟩

/-- The test of a document with an integer at the end of the path. -/
theorem decides_documentIntegers {root : Expr} {j : Json} {path : List String} {k : Integer64}
    (hasks : c.Asks t) (hroot : Shows env root (some j)) (hend : j.follow path = some (.integer k))
    (hargs : env.Binds first (documentArguments c)) (hfits : ∀ n ∈ t.operands, FitsSigned n) :
    Decides env (documentTest root path c first) (some (t.answer (compare k.val))) := by
  have hnumber : eval env (numberAt root path) = .ok (some (.numeric k.val)) := by
    rw [eval_numberAt hroot, Option.bind_some, hend]
    rfl
  have hpresent : Decides env (.isNull true (textAt root path)) (some true) := by
    refine (decides_present hroot).trans ?_
    rw [Option.bind_some, hend]
    rfl
  have hnone : Decides env (.isNull false (numberAt root path)) (some false) :=
    decides_isNull false hnumber
  cases hasks with
  | @comparison op o n hs =>
    have hnum := isNumeric_of_integer? hs
    have harg := (Env.binds_cons.1 hargs).1
    rw [documentArgument, if_pos hnum] at harg
    obtain ⟨y, hparam, hy⟩ := param_integer (.inr rfl) harg hs (hfits _ (List.mem_singleton_self _))
    have hoperand : eval env (numberParam first) = .ok (some y) := by rw [numberParam, eval, hparam]
    have hcompare := decides_integerCompare op hnumber .numeric hoperand hy
    rw [documentTest, hnum]
    -- An inequality holds also of what is no number, as long as something is there.
    cases op with
    | ne => exact decides_paren (decides_junction .and hpresent
        (decides_paren (decides_junction .or hnone hcompare)))
    | _ => exact hcompare
  | @membership negated items ns hitems =>
    have hnumeric := areNumeric hitems
    have hnumbers : numericItems items = items := List.filter_eq_self.2 hnumeric
    have hothers : otherItems items = [] :=
      List.filter_eq_nil_iff.2 fun o ho => by simp [hnumeric o ho]
    have hbound : (items.map fun o => documentArgument o.scalar) =
        items.map fun o => .ofScalar o.scalar :=
      List.map_congr_left fun o ho => if_pos (hnumeric o ho)
    rw [documentArguments, hnumbers, hothers, List.append_nil, hbound] at hargs
    have hamong := decides_integerAmong negated hnumber .numeric (.inr rfl) hitems hargs hfits
    rw [documentTest, hnumbers, hothers]
    cases hitems with
    | nil =>
      cases negated with
      | false => exact decides_truth false
      | true => exact hpresent
    | cons _ _ =>
      cases negated with
      | false => exact hamong
      | true => exact decides_paren (decides_junction .and hpresent
          (decides_paren (decides_junction .or hnone hamong)))

end Tests

/-! ## The leaf -/

section Leaf

variable {env : Env} {c : Condition} {t : IntegerTest} {first : Nat}

theorem arrayTest_of_asks (h : c.Asks t) (column : Expr) (path : List String) (first : Nat) :
    arrayTest column path c first =
      .someElement (arrayOf column) (documentTest .element path c first) := by
  cases h <;> rfl

/-- The test of an array asks the question of each of its integers. -/
theorem decides_arrayIntegers {path : List String} {items : List Json} {ks : List Integer64}
    {column : Expr} (hasks : c.Asks t) (hcolumn : Shows env column (some (.array items)))
    (hends : List.Forall₂ (fun j k => j.follow path = some (.integer k)) items ks)
    (hargs : env.Binds first (documentArguments c)) (hfits : ∀ n ∈ t.operands, FitsSigned n) :
    Decides env (arrayTest column path c first)
      (some ((ks.map (·.val)).any fun m => t.answer (compare m))) := by
  have htruths : List.Forall₂
      (fun j t => Decides (env.lookingAt j) (documentTest .element path c first) t)
      items (ks.map fun k => some (t.answer (compare k.val))) := by
    rw [List.forall₂_map_right_iff]
    exact hends.imp fun j k hend =>
      decides_documentIntegers hasks (shows_element env j) hend hargs hfits
  have hcontains : (ks.map fun k => some (t.answer (compare k.val))).contains (some true) =
      (ks.map (·.val)).any fun m => t.answer (compare m) := by
    rw [List.any_map, Bool.eq_iff_iff, List.contains_iff_mem, List.mem_map, List.any_eq_true]
    simp
  have h := decides_someElement (eval_arrayOf_array hcolumn) htruths
  rwa [hcontains, ← arrayTest_of_asks hasks] at h

theorem kindName_of_follow {path : List String} {j : Json} {k : Integer64}
    (h : j.follow path = some (.integer k)) : (j.kindName == "array") = false := by
  cases j with
  | array items => cases path <;> cases h
  | _ => rfl

variable {catalog : Catalog} {l : Leaf} {content : Content} {ms : List Int}

theorem decides_of_integersAt (hasks : l.condition.Asks t)
    (hms : IntegersAt (Json.StoredEndsIn l.field.nested) (targetOf catalog l).kind content ms)
    (hrow : env.row (targetOf catalog l).column = content.stored.datum?)
    (hargs : env.Binds first (leafArguments catalog l)) (hcontent : ∀ m ∈ ms, FitsSigned m)
    (hfits : ∀ n ∈ t.operands, FitsSigned n) :
    Decides env (leafTest catalog l first) (some (ms.any fun m => t.answer (compare m))) := by
  have hshows : ∀ j, content = .document j →
      Shows env (.column (targetOf catalog l).column) (some j.lowerKeys) := by
    rintro j rfl
    unfold Shows
    rw [eval, hrow]
    rfl
  unfold leafArguments at hargs
  unfold leafTest
  dsimp only
  generalize (targetOf catalog l).kind = kind at hms hargs ⊢
  cases hms with
  | @cell s m hs =>
    have hcell : env.row (targetOf catalog l).column = some (.integer m) := by
      rw [hrow, Content.stored, datum?_integer hs (hcontent m (List.mem_singleton_self m))]
    rw [List.any_cons, List.any_nil, Bool.or_false]
    exact decides_columnIntegers hasks hcell .integer hargs hfits
  | @document kind j k allowed hends =>
    have hcolumn := hshows j rfl
    have hdocument := decides_documentIntegers hasks hcolumn hends hargs hfits
    rw [List.any_cons, List.any_nil, Bool.or_false]
    rcases allowed with rfl | rfl
    · exact hdocument
    · refine decides_paren (decides_choose (holdsArray_decides hcolumn) (fun harray => ?_)
        fun _ => hdocument)
      rw [Option.map_some, kindName_of_follow hends] at harray
      cases harray
  | @elements kind items ks allowed hends =>
    have hcolumn := hshows (.array items) rfl
    rw [Json.lowerKeys_array] at hcolumn
    have harray := decides_arrayIntegers hasks hcolumn (List.forall₂_map_left_iff.2 hends) hargs
      hfits
    cases kind with
    | scalar => exact absurd rfl allowed
    | unknown =>
      exact decides_paren (decides_choose (holdsArray_decides hcolumn) (fun _ => harray)
        fun hother => absurd rfl hother)
    | arrayOfScalars => exact harray
    | arrayOfObjects => exact harray

/-- The matcher answers for the nearest binary64 numbers of the integers, taking integers with one
nearest number for equal. So it answers for the integers themselves if none shares its nearest
number with another one that it is compared with, which cannot happen when one of the two stays
below 53 bits. The compiled condition answers for the integers themselves, as long as all fit into
64 bits with a sign. -/
theorem integerLeaf_answers {e : Entity} (hasks : l.condition.Asks t)
    (hms : IntegersAt (Json.EndsIn l.field.nested) (targetOf catalog l).kind content ms)
    (he : e.child? l.field.root = some content.entity) :
    (Predicate.leaf l).holds e = (ms.any fun m => t.answer (roundedOrder m)) ∧
    ((∀ m ∈ ms, ∀ n ∈ t.operands, Binary64.ofInt m = Binary64.ofInt n → m = n) →
      (Predicate.leaf l).holds e = ms.any fun m => t.answer (compare m)) ∧
    ((∀ m ∈ ms, ∀ n ∈ t.operands, m.natAbs < 2 ^ 53 ∨ n.natAbs < 2 ^ 53) →
      (Predicate.leaf l).holds e = ms.any fun m => t.answer (compare m)) ∧
    ∀ (env : Env) (first : Nat),
      IntegersAt (Json.StoredEndsIn l.field.nested) (targetOf catalog l).kind content ms →
      env.row (targetOf catalog l).column = content.stored.datum? →
      env.Binds first (compileFrom catalog (.leaf l) first).arguments →
      (∀ m ∈ ms, FitsSigned m) → (∀ n ∈ t.operands, FitsSigned n) →
      Decides env (compileFrom catalog (.leaf l) first).condition
        (some (ms.any fun m => t.answer (compare m))) := by
  have hholds := holds_of_integersAt hasks hms he
  have hapart : (∀ m ∈ ms, ∀ n ∈ t.operands, Binary64.ofInt m = Binary64.ofInt n → m = n) →
      (Predicate.leaf l).holds e = ms.any fun m => t.answer (compare m) := fun hapart => by
    have hsame : ∀ m ∈ ms, t.answer (roundedOrder m) = t.answer (compare m) := fun m hm =>
      IntegerTest.answer_congr fun n hn => Binary64.roundedOrder_of_apart (hapart m hm n hn)
    rw [hholds, any_of_forall₂ (List.forall₂_same.2 hsame)]
  refine ⟨hholds, hapart, fun hsmall => hapart fun m hm n hn heq => ?_, ?_⟩
  · exact Binary64.ofInt_injective (hms.natAbs_le m hm) (hasks.natAbs_le n hn)
      (hsmall m hm n hn) heq
  · intro env first hstored hrow hargs hcontent hfits
    rw [compileFrom, test]
    refine decides_of_integersAt hasks hstored hrow ?_ hcontent hfits
    simpa only [compileFrom, arguments] using hargs

end Leaf

/-- The leaf `vpas.Serial >= 9007199254740993`, its operand unsigned. -/
def serialLeaf : Leaf where
  field := ⟨"vpas.Serial", by decide +kernel⟩
  condition := .comparison .ge ⟨.uint 9007199254740993, rfl⟩

/-- The document `[{"Serial": 9007199254740992}, {"Serial": -7}]`. -/
def serials : List Json :=
  [.object [("Serial", .integer ⟨9007199254740992, by decide, by decide⟩)],
    .object [("Serial", .integer ⟨-7, by decide, by decide⟩)]]

/-- An element just below the operand satisfies the matcher, but not the compiled condition. -/
theorem integerLeaf_answers_serials :
    let catalog := Catalog.empty.withDocument "vpas" .arrayOfObjects
    let compiled := compileFrom catalog (.leaf serialLeaf) 1
    (Predicate.leaf serialLeaf).holds (.record [("VPAS", .ofJson (.array serials))]) = true ∧
      Decides (rowEnv "vpas" (.json (Json.array serials).lowerKeys) compiled.arguments)
        compiled.condition (some false) := by
  intro catalog compiled
  have hroot : serialLeaf.field.root = "vpas" := by decide +kernel
  have hnested : serialLeaf.field.nested = ["Serial"] := by decide +kernel
  have hcolumn : (targetOf catalog serialLeaf).column = "vpas" := by decide +kernel
  have hkind : (targetOf catalog serialLeaf).kind = some .arrayOfObjects := by decide +kernel
  have hasks : serialLeaf.condition.Asks (.comparison .ge 9007199254740993) :=
    .comparison .ge (by decide)
  have hleads : ∀ k : Integer64, (Json.object [("Serial", .integer k)]).Leads ["Serial"]
      (.integer k) := fun k =>
    .member rfl (by simp) (.here _)
  have hserials : List.Forall₂ (fun j k => j.Leads serialLeaf.field.nested (.integer k)) serials
      [⟨9007199254740992, by decide, by decide⟩, ⟨-7, by decide, by decide⟩] := by
    rw [hnested]
    exact .cons (hleads _) (.cons (hleads _) .nil)
  have hms : IntegersAt (fun j k => j.Leads serialLeaf.field.nested (.integer k))
      (targetOf catalog serialLeaf).kind (.document (.array serials)) [9007199254740992, -7] := by
    rw [hkind]
    exact .elements (by decide) hserials
  have hchild : (Entity.record [("VPAS", .ofJson (.array serials))]).child?
      serialLeaf.field.root = some (Content.document (.array serials)).entity := by
    rw [hroot]
    rfl
  obtain ⟨hholds, -, -, hdecides⟩ :=
    integerLeaf_answers hasks (hms.imp fun _ _ => Json.Leads.endsIn) hchild
  refine ⟨hholds.trans (by decide +kernel), ?_⟩
  refine hdecides (rowEnv "vpas" _ compiled.arguments) 1
    (hms.imp fun _ _ => Json.Leads.storedEndsIn) ?_ (rowEnv_binds _ _ _) (by decide) (by decide)
  rw [hcolumn]
  rfl

/-- The leaf `serial > 9007199254740992`, its operand unsigned. -/
def aboveLeaf : Leaf where
  field := ⟨"serial", by decide +kernel⟩
  condition := .comparison .gt ⟨.uint 9007199254740992, rfl⟩

/-- The matcher does not tell an integer of 54 bits from the one before it. -/
theorem neighbour_not_above :
    aboveLeaf.condition.Asks (.comparison .gt 9007199254740992) ∧
      IntegersAt (Json.EndsIn aboveLeaf.field.nested) (targetOf .empty aboveLeaf).kind
        (.cell (.int 9007199254740993)) [9007199254740993] ∧
      (Predicate.leaf aboveLeaf).holds (.map [("serial", .leaf (.int 9007199254740993))]) = false ∧
      (IntegerTest.comparison .gt 9007199254740992).answer (compare 9007199254740993) = true := by
  have hkind : (targetOf .empty aboveLeaf).kind = none := by decide +kernel
  rw [hkind]
  exact ⟨.comparison .gt (by decide), .cell rfl, by decide +kernel, by decide⟩

end Sql

end Sieve
