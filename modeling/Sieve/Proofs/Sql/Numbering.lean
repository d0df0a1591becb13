import Mathlib.Data.List.Nodup
import Sieve.Proofs.Sql.Placeholders

/-!
# Sieve.Proofs.Sql.Numbering

The placeholders of compiled predicates. Every leaf has its own numbers, right behind those of the
leaves before it.

* `params_test`, `shift_test`: the placeholders of a predicate, and what their first number moves.
* `compileFrom_numbered`: how the text of a compiled predicate and its arguments fit.
-/

namespace Sieve
namespace Sql

/-! ## Predicates -/

/-- The arguments that leaves bind, one leaf after the other. -/
def argumentsOfLeaves (catalog : Catalog) (ls : List Leaf) : List Argument :=
  ls.flatMap (leafArguments catalog)

/-- Leaves, each with the number of its first argument. -/
def numbered (catalog : Catalog) (first : Nat) : List Leaf → List (Leaf × Nat)
  | [] => []
  | l :: ls => (l, first) :: numbered catalog (first + (leafArguments catalog l).length) ls

/-- The placeholders of leaves, one leaf after the other. -/
def placeholders (catalog : Catalog) (first : Nat) (ls : List Leaf) : List Nat :=
  (numbered catalog first ls).flatMap fun (l, k) => leafPlaceholders catalog k l

section Predicate

variable (catalog : Catalog)

theorem argumentsOfLeaves_append (ls ms : List Leaf) :
    argumentsOfLeaves catalog (ls ++ ms) =
      argumentsOfLeaves catalog ls ++ argumentsOfLeaves catalog ms :=
  List.flatMap_append

theorem numbered_append (first : Nat) (ls ms : List Leaf) :
    numbered catalog first (ls ++ ms) = numbered catalog first ls ++
      numbered catalog (first + (argumentsOfLeaves catalog ls).length) ms := by
  induction ls generalizing first with
  | nil => rfl
  | cons l ls ih =>
    have hnext : first + (leafArguments catalog l).length +
        (argumentsOfLeaves catalog ls).length =
          first + (argumentsOfLeaves catalog (l :: ls)).length := by
      rw [argumentsOfLeaves, argumentsOfLeaves, List.flatMap_cons, List.length_append,
        Nat.add_assoc]
    rw [List.cons_append, numbered, numbered, ih, hnext, List.cons_append]

theorem placeholders_nil (first : Nat) : placeholders catalog first [] = [] := rfl

theorem placeholders_cons (first : Nat) (l : Leaf) (ls : List Leaf) :
    placeholders catalog first (l :: ls) = leafPlaceholders catalog first l ++
      placeholders catalog (first + (leafArguments catalog l).length) ls :=
  List.flatMap_cons

theorem placeholders_append (first : Nat) (ls ms : List Leaf) :
    placeholders catalog first (ls ++ ms) = placeholders catalog first ls ++
      placeholders catalog (first + (argumentsOfLeaves catalog ls).length) ms := by
  rw [placeholders, numbered_append, List.flatMap_append]
  rfl

mutual

theorem arguments_eq : ∀ p : Predicate, arguments catalog p = argumentsOfLeaves catalog p.leaves
  | .matchAll => by
    rw [arguments, Predicate.leaves]
    rfl
  | .leaf l => by
    rw [arguments, Predicate.leaves, argumentsOfLeaves, List.flatMap_singleton]
  | .compound _ ps => by
    rw [arguments, Predicate.leaves]
    exact argumentsOf_eq ps

theorem argumentsOf_eq : ∀ ps : List Predicate,
    argumentsOf catalog ps = argumentsOfLeaves catalog (Predicate.leavesOf ps)
  | [] => rfl
  | p :: ps => by
    rw [argumentsOf, Predicate.leavesOf, argumentsOfLeaves_append, arguments_eq p,
      argumentsOf_eq ps]

end

mutual

/-- The placeholders of a predicate are those of its leaves. -/
theorem params_test : ∀ (p : Predicate) (first : Nat),
    (test catalog first p).params = placeholders catalog first p.leaves
  | .matchAll, first => by
    rw [test, Predicate.leaves]
    rfl
  | .leaf l, first => by
    rw [test, Predicate.leaves, params_leafTest, placeholders_cons,
      placeholders_nil, List.append_nil]
  | .compound _ [], first => by
    rw [test, Predicate.leaves]
    rfl
  | .compound _ [p], first => by
    rw [test, params_test p, Predicate.leaves, Predicate.leavesOf, Predicate.leavesOf,
      List.append_nil]
  | .compound c (p :: q :: ps), first => by
    rw [test, params_testAfter c (q :: ps), Expr.params, params_test p, arguments_eq,
      ← placeholders_append]
    · rfl
    · exact fun h => by cases h

theorem params_testAfter : ∀ (c : Conjunction) (ps : List Predicate) (before : Expr) (first : Nat),
    (testAfter catalog c before first ps).params =
      before.params ++ placeholders catalog first (Predicate.leavesOf ps)
  | c, [], before, first => by
    rw [testAfter, Predicate.leavesOf, placeholders_nil, List.append_nil]
  | c, p :: ps, before, first => by
    rw [testAfter, params_testAfter c ps, Expr.params, Expr.params, params_test p, arguments_eq,
      List.append_assoc, ← placeholders_append]
    rfl

end

mutual

/-- The first number moves all the others. -/
theorem shift_test (d : Nat) : ∀ (p : Predicate) (first : Nat),
    (test catalog first p).shift d = test catalog (first + d) p
  | .matchAll, first => by
    rw [test, test]
    rfl
  | .leaf l, first => by
    rw [test, test, shift_leafTest]
  | .compound _ [], first => by
    rw [test, test]
    rfl
  | .compound _ [p], first => by
    rw [test, test, shift_test d p]
  | .compound c (p :: q :: ps), first => by
    rw [test, test, shift_testAfter d c (q :: ps), Expr.shift, shift_test d p,
      Nat.add_right_comm]
    · exact fun h => by cases h
    · exact fun h => by cases h

theorem shift_testAfter (d : Nat) : ∀ (c : Conjunction) (ps : List Predicate) (before : Expr)
    (first : Nat), (testAfter catalog c before first ps).shift d =
      testAfter catalog c (before.shift d) (first + d) ps
  | c, [], before, first => by
    rw [testAfter, testAfter]
  | c, p :: ps, before, first => by
    rw [testAfter, testAfter, shift_testAfter d c ps, Expr.shift, Expr.shift, shift_test d p,
      Nat.add_right_comm]

end

end Predicate

/-! ## Numbers -/

section Number

variable (catalog : Catalog)

theorem mem_leafPlaceholders {first : Nat} {l : Leaf} {k : Nat} :
    k ∈ leafPlaceholders catalog first l ↔
      k ∈ List.range' first (leafArguments catalog l).length := by
  simp only [leafPlaceholders]
  split
  · rw [List.mem_append, or_self]
  · rfl

/-- The placeholders of leaves are numbered from the first one. -/
theorem first_le_of_mem {first : Nat} {ls : List Leaf} {k : Nat}
    (h : k ∈ placeholders catalog first ls) :
    first ≤ k ∧ k < first + (argumentsOfLeaves catalog ls).length := by
  induction ls generalizing first with
  | nil => cases h
  | cons l ls ih =>
    rw [argumentsOfLeaves, List.flatMap_cons, List.length_append]
    rw [placeholders_cons, List.mem_append] at h
    rcases h with h | h
    · have hk := List.mem_range'_1.1 ((mem_leafPlaceholders catalog).1 h)
      exact ⟨hk.1, by omega⟩
    · have hk := ih h
      rw [argumentsOfLeaves] at hk
      exact ⟨by omega, by omega⟩

theorem eraseDups_of_nodup {ks : List Nat} (h : ks.Nodup) : ks.eraseDups = ks := by
  induction ks with
  | nil => rfl
  | cons k ks ih =>
    obtain ⟨hk, hks⟩ := List.nodup_cons.1 h
    have hrest : (ks.filter fun b => !b == k) = ks := by
      refine List.filter_eq_self.2 fun b hb => ?_
      have hne : b ≠ k := fun h => hk (h ▸ hb)
      simp [hne]
    rw [List.eraseDups_cons, hrest, ih hks]

theorem removeAll_of_disjoint {ks ms : List Nat} (h : ∀ k ∈ ks, k ∉ ms) : ks.removeAll ms = ks := by
  refine List.filter_eq_self.2 fun k hk => ?_
  simpa using h k hk

theorem eraseDups_leafPlaceholders (first : Nat) (l : Leaf) :
    (leafPlaceholders catalog first l).eraseDups =
      List.range' first (leafArguments catalog l).length := by
  have honce : (List.range' first (leafArguments catalog l).length).eraseDups =
      List.range' first (leafArguments catalog l).length :=
    eraseDups_of_nodup List.nodup_range'
  simp only [leafPlaceholders]
  split
  · have hnone : (List.range' first (leafArguments catalog l).length).removeAll
        (List.range' first (leafArguments catalog l).length) = [] := by
      refine List.filter_eq_nil_iff.2 fun k hk => ?_
      simpa using hk
    rw [List.eraseDups_append, hnone, honce, List.eraseDups_nil, List.append_nil]
  · exact honce

/-- Leaving repetitions out, the placeholders are numbered one after the other. -/
theorem eraseDups_placeholders (first : Nat) (ls : List Leaf) :
    (placeholders catalog first ls).eraseDups =
      List.range' first (argumentsOfLeaves catalog ls).length := by
  induction ls generalizing first with
  | nil => rfl
  | cons l ls ih =>
    have hlater : (placeholders catalog (first + (leafArguments catalog l).length) ls).removeAll
        (leafPlaceholders catalog first l) =
          placeholders catalog (first + (leafArguments catalog l).length) ls := by
      refine removeAll_of_disjoint fun k hk hl => ?_
      have hge := (first_le_of_mem catalog hk).1
      have hlt := (List.mem_range'_1.1 ((mem_leafPlaceholders catalog).1 hl)).2
      omega
    rw [placeholders_cons, List.eraseDups_append, hlater, eraseDups_leafPlaceholders, ih,
      List.range'_append_1, argumentsOfLeaves, argumentsOfLeaves, List.flatMap_cons,
      List.length_append]

/-- A placeholder occurs in one leaf only, and twice there if the leaf is twofold. -/
theorem count_placeholders {first k : Nat} {before after : List Leaf} {l : Leaf}
    (hk : k ∈ List.range' (first + (argumentsOfLeaves catalog before).length)
      (leafArguments catalog l).length) :
    (placeholders catalog first (before ++ l :: after)).count k =
      if isTwofold catalog l then 2 else 1 := by
  obtain ⟨hge, hlt⟩ := List.mem_range'_1.1 hk
  have hbefore : (placeholders catalog first before).count k = 0 := by
    refine List.count_eq_zero.2 fun hmem => ?_
    have := (first_le_of_mem catalog hmem).2
    omega
  have hafter : (placeholders catalog (first + (argumentsOfLeaves catalog before).length +
      (leafArguments catalog l).length) after).count k = 0 := by
    refine List.count_eq_zero.2 fun hmem => ?_
    have := (first_le_of_mem catalog hmem).1
    omega
  have honce := List.count_eq_one_of_mem List.nodup_range' hk
  rw [placeholders_append, placeholders_cons, List.count_append, List.count_append, hbefore, hafter]
  simp only [leafPlaceholders]
  split
  · rw [List.count_append, honce]
  · rw [honce]

end Number

/-- The operands that a leaf binds, in the order of their placeholders. -/
def boundOperands (catalog : Catalog) (l : Leaf) : List Operand :=
  match l.condition with
  | .comparison _ o => [o]
  | .membership _ items =>
    match (targetOf catalog l).kind with
    | none => items
    | some _ => numericItems items ++ otherItems items
  | .textual _ o => [o]
  | .nullness _ => []

/-- What an operand of a leaf is bound as. -/
def boundAs (catalog : Catalog) (l : Leaf) (o : Operand) : Argument :=
  match l.condition, (targetOf catalog l).kind with
  | .textual .contains _, some _ => .json o.scalar.toJson
  | .textual test _, _ => .text (patternOf test o.scalar)
  | _, some _ => documentArgument o.scalar
  | _, none => .ofScalar o.scalar

/-- The values that leaves bind, one leaf after the other. -/
def boundBy (catalog : Catalog) (ls : List Leaf) : List Argument :=
  ls.flatMap fun l => (boundOperands catalog l).map (boundAs catalog l)

theorem boundBy_append (catalog : Catalog) (ls ms : List Leaf) :
    boundBy catalog (ls ++ ms) = boundBy catalog ls ++ boundBy catalog ms :=
  List.flatMap_append

theorem leafArguments_eq (catalog : Catalog) (l : Leaf) :
    leafArguments catalog l = (boundOperands catalog l).map (boundAs catalog l) := by
  unfold leafArguments boundOperands
  have hbound : boundAs catalog l = fun o =>
      match l.condition, (targetOf catalog l).kind with
      | .textual .contains _, some _ => .json o.scalar.toJson
      | .textual test _, _ => .text (patternOf test o.scalar)
      | _, some _ => documentArgument o.scalar
      | _, none => .ofScalar o.scalar := rfl
  cases hkind : (targetOf catalog l).kind <;> cases hcond : l.condition with
  | textual test o => cases test <;> simp [columnArguments, documentArguments, hbound, hkind, hcond]
  | _ => simp [columnArguments, documentArguments, hbound, hkind, hcond]

theorem argumentsOfLeaves_eq (catalog : Catalog) (ls : List Leaf) :
    argumentsOfLeaves catalog ls = boundBy catalog ls := by
  induction ls with
  | nil => rfl
  | cons l ls ih =>
    rw [argumentsOfLeaves, boundBy, List.flatMap_cons, List.flatMap_cons, leafArguments_eq]
    exact congrArg _ ih

/-- How the tokens of a compiled predicate and its arguments fit. -/
structure Numbered (catalog : Catalog) (p : Predicate) (first : Nat) (tokens : List Token)
    (args : List Argument) : Prop where
  /-- The values are those of the leaves, from left to right. -/
  arguments : args = boundBy catalog p.leaves
  /-- Leaving repetitions out, there is one placeholder for each value, in the same order. -/
  inOrder : (paramsOf tokens).eraseDups = List.range' first args.length
  /-- A placeholder that stands for a value of a leaf occurs once, in a twofold leaf twice. -/
  times : ∀ before l after, p.leaves = before ++ l :: after →
    ∀ k ∈ List.range' (first + (boundBy catalog before).length) (boundBy catalog [l]).length,
      (paramsOf tokens).count k = if isTwofold catalog l then 2 else 1

theorem numbered_test (catalog : Catalog) (p : Predicate) (first : Nat) :
    Numbered catalog p first (test catalog first p).tokens (arguments catalog p) := by
  have hparams : paramsOf (test catalog first p).tokens = placeholders catalog first p.leaves := by
    rw [paramsOf_tokens, params_test]
  refine ⟨?_, ?_, ?_⟩
  · rw [arguments_eq, argumentsOfLeaves_eq]
  · rw [hparams, eraseDups_placeholders, arguments_eq]
  · intro before l after hleaves k hk
    have hl : (boundBy catalog [l]).length = (leafArguments catalog l).length := by
      rw [boundBy, List.flatMap_singleton, leafArguments_eq]
    rw [hl, ← argumentsOfLeaves_eq] at hk
    rw [hparams, hleaves]
    exact count_placeholders catalog hk

/-- The text of a compiled predicate, cut into tokens, has the placeholders that its arguments are
bound to, and differs from the text numbered from 1 in that every placeholder is moved up. -/
theorem compileFrom_numbered (catalog : Catalog) (p : Predicate) {first : Nat} (h : 1 ≤ first) :
    ∃ compiled fromOne tokens, compileFrom? catalog p first = .ok compiled ∧
      compileFrom? catalog p 1 = .ok fromOne ∧ lex fromOne.sql = some tokens ∧
      compiled.sql = textOf (tokens.map (Token.shift (first - 1))) ∧
      lex compiled.sql = some (tokens.map (Token.shift (first - 1))) ∧
      compiled.arguments = fromOne.arguments ∧
      Numbered catalog p first (tokens.map (Token.shift (first - 1))) compiled.arguments := by
  have hfirst : first ≠ 0 := by omega
  have hmoved : (test catalog 1 p).tokens.map (Token.shift (first - 1)) =
      (test catalog first p).tokens := by
    have hnext : 1 + (first - 1) = first := by omega
    rw [← tokens_shift, shift_test, hnext]
  refine ⟨compileFrom catalog p first, compileFrom catalog p 1, (test catalog 1 p).tokens,
    if_neg hfirst, if_neg Nat.one_ne_zero, lex_text _, ?_, ?_, rfl, ?_⟩
  · rw [hmoved]
    rfl
  · rw [hmoved]
    exact lex_text _
  · rw [hmoved]
    exact numbered_test catalog p first

/-- The leaf `labels NOT IN ("edge", 5)`. -/
def labelsLeaf : Leaf where
  field := ⟨"labels", by decide +kernel⟩
  condition := .membership true [⟨.text "edge", rfl⟩, ⟨.int 5, rfl⟩]

/-- The leaf `tier >= 2`. -/
def tierLeaf : Leaf where
  field := ⟨"tier", by decide +kernel⟩
  condition := .comparison .ge ⟨.int 2, rfl⟩

theorem compileFrom_numbered_labels :
    let catalog := Catalog.empty.withDocument "labels" .unknown
    let p := Predicate.compound .and [.leaf labelsLeaf, .leaf tierLeaf]
    ∃ tokens, lex (compileFrom catalog p 3).sql = some tokens ∧
      (compileFrom catalog p 3).arguments = [.int 5, .text "edge", .int 2] ∧
      (paramsOf tokens).eraseDups = [3, 4, 5] ∧ (paramsOf tokens).count 4 = 2 ∧
      (paramsOf tokens).count 5 = 1 := by
  intro catalog p
  obtain ⟨compiled, fromOne, tokens, hcompiled, -, -, -, hlex, -, hnumbered⟩ :=
    compileFrom_numbered catalog p (show 1 ≤ 3 by decide)
  have heq : compileFrom catalog p 3 = compiled := Except.ok.inj hcompiled
  have hleaves : p.leaves = [labelsLeaf, tierLeaf] := by
    simp [p, Predicate.leaves, Predicate.leavesOf]
  have hunknown : (targetOf catalog labelsLeaf).kind = some .unknown := by decide +kernel
  have hplain : (targetOf catalog tierLeaf).kind = none := by decide +kernel
  have hlabels : boundBy catalog [labelsLeaf] = [.int 5, .text "edge"] := by
    have hoperands : boundOperands catalog labelsLeaf = [⟨.int 5, rfl⟩, ⟨.text "edge", rfl⟩] := by
      decide +kernel
    have hcondition : labelsLeaf.condition =
        .membership true [⟨.text "edge", rfl⟩, ⟨.int 5, rfl⟩] := rfl
    rw [boundBy, List.flatMap_singleton, hoperands]
    simp only [List.map_cons, List.map_nil, boundAs, hcondition, hunknown]
    rfl
  have htier : boundBy catalog [tierLeaf] = [.int 2] := by
    have hcondition : tierLeaf.condition = .comparison .ge ⟨.int 2, rfl⟩ := rfl
    rw [boundBy, List.flatMap_singleton]
    simp only [boundOperands, List.map_cons, List.map_nil, boundAs, hcondition, hplain]
    rfl
  have hargs : compiled.arguments = [.int 5, .text "edge", .int 2] := by
    have hboth := boundBy_append catalog [labelsLeaf] [tierLeaf]
    rw [List.singleton_append] at hboth
    rw [hnumbered.arguments, hleaves, hboth, hlabels, htier]
    rfl
  have htwofold : isTwofold catalog labelsLeaf = true := by
    rw [isTwofold, hunknown]
    rfl
  have honce : isTwofold catalog tierLeaf = false := by
    rw [isTwofold, hplain]
    rfl
  have horder := hnumbered.inOrder
  have hfour := hnumbered.times [] labelsLeaf [tierLeaf] hleaves 4
    (by rw [hlabels]; decide)
  have hfive := hnumbered.times [labelsLeaf] tierLeaf [] hleaves 5
    (by rw [hlabels, htier]; decide)
  rw [hargs] at horder
  rw [htwofold] at hfour
  rw [honce] at hfive
  exact ⟨_, heq ▸ hlex, heq ▸ hargs, horder, hfour, hfive⟩

end Sql
end Sieve
