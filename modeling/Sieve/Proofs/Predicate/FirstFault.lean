import Mathlib
import Sieve.Predicate.Wire

/-!
# Sieve.Proofs.Predicate.FirstFault

Which fault of a document is reported when no predicate can be read from it. Every node of a
document is a list of checks, and a node is named by its way, the indices of the children that lead
to it. Ways in lexicographic order are the nodes in document order, so the first fault is the one
at the least way that has any: `FirstFault`.

* `ofJson_firstFault`: what is read from a document hangs on its first fault alone.
* `PredicateError.reported`: an unknown name is reported as it is, any other error inside one error
  for each index of the way.
-/

namespace Sieve

namespace PredicateError

/-- The name of an operator or a conjunction that is not known. -/
def isUnknownName : PredicateError → Bool
  | .unknownOperator _ => true
  | .unknownConjunction _ => true
  | _ => false

/-- An error at the end of a way, wrapped once for each index; the first index is outermost. -/
def wrapped : List Nat → PredicateError → PredicateError
  | [], e => e
  | index :: way, e => .child index (wrapped way e)

/-- What is reported of an error at the end of a way. -/
def reported (way : List Nat) (e : PredicateError) : PredicateError :=
  if e.isUnknownName then e else wrapped way e

/-- The text of an error that wraps another one around the text of that one. -/
def aroundReason (index : Nat) (reason : String) : String :=
  "malformed child predicate at index " ++ toString index ++ ": " ++ reason

theorem message_child (index : Nat) (cause : PredicateError) :
    (child index cause).message = aroundReason index cause.message := rfl

theorem message_wrapped (way : List Nat) (e : PredicateError) :
    (wrapped way e).message = way.foldr aroundReason e.message := by
  induction way with
  | nil => rfl
  | cons index way ih =>
    rw [wrapped, message_child, ih, List.foldr_cons]

theorem reported_nil (e : PredicateError) : e.reported [] = e := by
  unfold reported
  split <;> rfl

/-- An error of a child is passed on by its parent as the way to it grows by the child's index. -/
theorem inChild_reported (index : Nat) (way : List Nat) (e : PredicateError) :
    Predicate.inChild index (e.reported way) = e.reported (index :: way) := by
  unfold reported
  cases e with
  | unknownOperator name => rfl
  | unknownConjunction name => rfl
  | _ => cases way <;> rfl

end PredicateError

namespace Json

mutual

/-- An object stands in the document, or in a list inside it. -/
def holdsObject : Json → Bool
  | .object _ => true
  | .array items => anyHoldsObject items
  | _ => false

def anyHoldsObject : List Json → Bool
  | [] => false
  | j :: js => holdsObject j || anyHoldsObject js

end

mutual

theorem ofJson?_eq_none_iff : ∀ j : Json, Value.ofJson? j = none ↔ j.holdsObject = true
  | .null | .bool _ | .decimal _ | .text _ => by simp [Value.ofJson?, holdsObject]
  | .integer n => by cases h : n.toInt64? <;> simp [Value.ofJson?, holdsObject, h]
  | .object members => by simp [Value.ofJson?, holdsObject]
  | .array items => by
    rw [Value.ofJson?, Option.map_eq_none_iff, holdsObject]
    exact ofJsonItems?_eq_none_iff items

theorem ofJsonItems?_eq_none_iff : ∀ items : List Json,
    Value.ofJsonItems? items = none ↔ anyHoldsObject items = true
  | [] => by simp [Value.ofJsonItems?, anyHoldsObject]
  | j :: js => by
    rw [anyHoldsObject, Bool.or_eq_true, ← ofJson?_eq_none_iff j, ← ofJsonItems?_eq_none_iff js,
      Value.ofJsonItems?]
    cases Value.ofJson? j <;> cases Value.ofJsonItems? js <;> simp

end

end Json

namespace Predicate

/-! ## Checks -/

/-- A member that is a text. -/
def memberText? (key : String) (members : Entries Json) : Option String :=
  (Entries.get? key members).bind Json.text?

/-- A member has to be a text. -/
def wantText (key : String) (members : Entries Json) : Option PredicateError :=
  if (memberText? key members).isSome then none else some (.document (.missingText key))

/-- The operator has to be one that can be read, if it is a text at all. -/
def wantName {α : Type} (read? : String → Option α) (unknown : String → PredicateError)
    (members : Entries Json) : Option PredicateError :=
  (memberText? "operator" members).bind fun name =>
    if (read? name).isSome then none else some (unknown name)

/-- No object may stand in the operand. -/
def wantNoObject (members : Entries Json) : Option PredicateError :=
  if (Entries.get? "value" members).any Json.holdsObject then some (.document .objectValue)
  else none

/-- The operand of a leaf, null if it has none. -/
def operand? (members : Entries Json) : Option Value :=
  match Entries.get? "value" members with
  | none => some .null
  | some j => Value.ofJson? j

/-- The parts of a leaf have to make a leaf, if all of them are there. -/
def wantLeaf (members : Entries Json) : Option PredicateError :=
  match memberText? "field" members, (memberText? "operator" members).bind Operator.read?,
    operand? members with
  | some field, some op, some v =>
    match make field op v with
    | .error e => some e
    | .ok _ => none
  | _, _, _ => none

def leafChecks (members : Entries Json) : List (Option PredicateError) :=
  [wantText "field" members, wantText "operator" members,
    wantName Operator.read? .unknownOperator members, wantNoObject members, wantLeaf members]

def conjunctionChecks (members : Entries Json) : List (Option PredicateError) :=
  [wantText "operator" members, wantName Conjunction.read? .unknownConjunction members]

/-- The children have to be an array. -/
def wantArray : Json → Option PredicateError
  | .array _ => none
  | _ => some (.document .childrenNotArray)

/-- The type of a node has to be the one that there is. -/
def typeCheck (tag : Json) : Option PredicateError :=
  if tag.text?.any (Text.sameIgnoringCase · matchAllTag) then none
  else some (.document (.unknownType tag))

/-- The checks of a node, in their order, each with the error if it fails. -/
def checks : Json → List (Option PredicateError)
  | .object members =>
    match Entries.get? "type" members with
    | some tag => [typeCheck tag]
    | none =>
      match children? members with
      | some children => conjunctionChecks members ++ [wantArray children]
      | none => leafChecks members
  | found => [some (.document (.notObject found))]

/-- The error of the first check that a node fails. -/
def fault? (j : Json) : Option PredicateError := (checks j).findSome? id

/-! ## Nodes -/

/-- The children of a compound, which are the nodes right below it. -/
def childNodes : Json → List Json
  | .object members =>
    match Entries.get? "type" members, children? members with
    | none, some (.array items) => items
    | _, _ => []
  | _ => []

/-- The node that indices of children lead to. -/
def nodeAt? : List Nat → Json → Option Json
  | [], j => some j
  | index :: way, j => (childNodes j)[index]?.bind (nodeAt? way)

def faultAt? (way : List Nat) (j : Json) : Option PredicateError := (nodeAt? way j).bind fault?

/-- One node stands before another in the document. -/
def Before : List Nat → List Nat → Prop := List.Lex (· < ·)

/-- The node at the end of the way fails a check, and no node before it does. -/
structure FirstFault (j : Json) (way : List Nat) (e : PredicateError) : Prop where
  fails : faultAt? way j = some e
  first : ∀ earlier, Before earlier way → faultAt? earlier j = none

theorem FirstFault.unique {j : Json} {way way' : List Nat} {e e' : PredicateError}
    (h : FirstFault j way e) (h' : FirstFault j way' e') : way = way' ∧ e = e' := by
  have hway : way = way' := by
    rcases trichotomous_of (List.Lex (· < ·)) way way' with hlt | heq | hgt
    · have hnone := h'.first way hlt
      rw [h.fails] at hnone
      cases hnone
    · exact heq
    · have hnone := h.first way' hgt
      rw [h'.fails] at hnone
      cases hnone
  subst hway
  exact ⟨rfl, Option.some.inj (h.fails.symm.trans h'.fails)⟩

theorem faultAt?_cons (index : Nat) (way : List Nat) (j : Json) :
    faultAt? (index :: way) j = (childNodes j)[index]?.bind (faultAt? way) :=
  Option.bind_assoc ..

theorem sizeOf_childNodes {j c : Json} (h : c ∈ childNodes j) : sizeOf c < sizeOf j := by
  cases j with
  | object members =>
    rw [childNodes] at h
    split at h
    · next items _ hitems =>
      have hmember := List.sizeOf_lt_of_mem h
      have hsize := sizeOf_children?_lt hitems
      simp only [Json.array.sizeOf_spec] at hsize
      simp only [Json.object.sizeOf_spec]
      omega
    · cases h
  | _ => cases h

/-! ## Reading -/

/-- A reader fails with the complaint, if there is one, and gives a result otherwise. -/
def Answers {α : Type} (complaint : Option PredicateError) (answer : Except PredicateError α) :
    Prop :=
  match complaint with
  | some e => answer = .error e
  | none => ∃ a, answer = .ok a

theorem answers_tag (tag : Json) : Answers (typeCheck tag) (ofTag tag) := by
  unfold ofTag typeCheck
  cases tag with
  | text s =>
    cases h : Text.sameIgnoringCase s matchAllTag with
    | true => simp [Answers, Json.text?, h]
    | false => simp [Answers, Json.text?, h]
  | _ => rfl

theorem requiredText_eq (key : String) (members : Entries Json) :
    requiredText key members =
      match memberText? key members with
      | some s => .ok s
      | none => .error (.document (.missingText key)) := rfl

theorem answers_conjunction (members : Entries Json) :
    Answers ((conjunctionChecks members).findSome? id) (readConjunction members) := by
  unfold readConjunction conjunctionChecks wantText wantName
  rw [requiredText_eq]
  cases hname : memberText? "operator" members with
  | none => rfl
  | some name =>
    cases hread : Conjunction.read? name with
    | none => simp [Answers, hread, bind, Except.bind]
    | some c => simp [Answers, hread, bind, Except.bind]

theorem answers_leaf (members : Entries Json) :
    Answers ((leafChecks members).findSome? id) (ofLeafMembers members) := by
  unfold leafChecks ofLeafMembers wantText wantName wantNoObject wantLeaf
  rw [requiredText_eq, requiredText_eq]
  cases hfield : memberText? "field" members with
  | none => rfl
  | some field =>
    cases hname : memberText? "operator" members with
    | none => rfl
    | some name =>
      cases hread : Operator.read? name with
      | none => simp [Answers, hread, bind, Except.bind]
      | some op =>
        unfold operand?
        cases hvalue : Entries.get? "value" members with
        | none =>
          cases hmake : make field op .null with
          | error e => simp [Answers, hread, hmake, bind, Except.bind]
          | ok p => simp [Answers, hread, hmake, bind, Except.bind]
        | some j =>
          cases hv : Value.ofJson? j with
          | none =>
            have hobject := (Json.ofJson?_eq_none_iff j).1 hv
            simp [Answers, hread, hobject, hv, bind, Except.bind]
          | some v =>
            have hobject : j.holdsObject = false := by
              rw [← Bool.not_eq_true, ← Json.ofJson?_eq_none_iff, hv]
              simp
            cases hmake : make field op v with
            | error e => simp [Answers, hread, hobject, hv, hmake, bind, Except.bind]
            | ok p => simp [Answers, hread, hobject, hv, hmake, bind, Except.bind]

theorem fault?_compound {members : Entries Json} {children : Json}
    (htag : Entries.get? "type" members = none) (hchildren : children? members = some children) :
    fault? (.object members) =
      ((conjunctionChecks members).findSome? id).or (wantArray children) := by
  rw [fault?, checks, htag, hchildren, List.findSome?_append, List.findSome?_singleton]
  rfl

/-- What is read from a node, told its first complaint and its children. -/
inductive Outcome (j : Json) : Prop where
  | fault {e : PredicateError} (own : fault? j = some e) (answer : ofJson j = .error e)
  | single {p : Predicate} (own : fault? j = none) (nodes : childNodes j = [])
    (answer : ofJson j = .ok p)
  | compound (c : Conjunction) (own : fault? j = none)
    (answer : ofJson j = (ofJsonChildren 0 (childNodes j)).map (.compound c))

/-- A node without children has the answer that its checks have. -/
theorem Outcome.of_answers {j : Json} (hnodes : childNodes j = [])
    (h : Answers (fault? j) (ofJson j)) : Outcome j := by
  cases hown : fault? j with
  | some e =>
    rw [hown] at h
    exact .fault hown h
  | none =>
    rw [hown] at h
    obtain ⟨p, hp⟩ := h
    exact .single hown hnodes hp

section Children

variable {members : Entries Json} {children : Json} {items : List Json}

theorem ofJson_of_array (htag : Entries.get? "type" members = none)
    (hchildren : children? members = some (.array items)) :
    ofJson (.object members) =
      (readConjunction members).bind fun c => (ofJsonChildren 0 items).map (.compound c) := by
  rw [ofJson]
  simp only [htag]
  split
  · next h => simp [hchildren] at h
  · next h =>
    rw [hchildren] at h
    cases h
    cases readConjunction members <;> rfl
  · next other hother h =>
    rw [hchildren, Option.some.injEq] at h
    exact absurd h.symm (hother items)

theorem ofJson_of_no_array (htag : Entries.get? "type" members = none)
    (hchildren : children? members = some children) (hother : ∀ items, children ≠ .array items) :
    ofJson (.object members) =
      (readConjunction members).bind fun _ => .error (.document .childrenNotArray) := by
  rw [ofJson]
  simp only [htag]
  split
  · next h => simp [hchildren] at h
  · next items h =>
    rw [hchildren, Option.some.injEq] at h
    exact absurd h (hother items)
  · cases readConjunction members <;> rfl

theorem outcome_compound (htag : Entries.get? "type" members = none)
    (hchildren : children? members = some children) : Outcome (.object members) := by
  have hown := fault?_compound htag hchildren
  have hanswer := answers_conjunction members
  cases hconjunction : (conjunctionChecks members).findSome? id with
  | some e =>
    rw [hconjunction] at hanswer hown
    have hanswer : readConjunction members = .error e := hanswer
    refine .fault hown ?_
    cases children with
    | array items => rw [ofJson_of_array htag hchildren, hanswer, Except.bind]
    | _ => rw [ofJson_of_no_array htag hchildren nofun, hanswer, Except.bind]
  | none =>
    rw [hconjunction] at hanswer hown
    obtain ⟨c, hc⟩ := hanswer
    cases children with
    | array items =>
      have hnodes : childNodes (.object members) = items := by simp [childNodes, htag, hchildren]
      refine .compound c hown ?_
      rw [ofJson_of_array htag hchildren, hnodes, hc, Except.bind]
    | _ => exact .fault hown (by rw [ofJson_of_no_array htag hchildren nofun, hc]; rfl)

end Children

theorem outcome (j : Json) : Outcome j := by
  cases j with
  | object members =>
    cases htag : Entries.get? "type" members with
    | some tag =>
      have hanswer := answers_tag tag
      refine .of_answers (by simp [childNodes, htag]) ?_
      rw [ofJson, fault?, checks, htag, List.findSome?_singleton]
      exact hanswer
    | none =>
      cases hchildren : children? members with
      | none =>
        refine .of_answers (by simp [childNodes, htag, hchildren]) ?_
        have hleaf : ofJson (.object members) = ofLeafMembers members := by
          rw [ofJson]
          simp only [htag]
          split
          · rfl
          · next h => simp [hchildren] at h
          · next h => simp [hchildren] at h
        rw [hleaf, fault?, checks, htag, hchildren]
        exact answers_leaf members
      | some children => exact outcome_compound htag hchildren
  | _ => exact .fault rfl (by rw [ofJson]; simp)

/-- A document has no fault, and a predicate is read from it, or it has a first fault, which is
reported. -/
inductive Decided (j : Json) : Prop where
  | sound {p : Predicate} (faultless : ∀ way, faultAt? way j = none) (answer : ofJson j = .ok p)
  | fault {way : List Nat} {e : PredicateError} (first : FirstFault j way e)
    (answer : ofJson j = .error (e.reported way))

/-- As `Decided`, of children read one after the other. -/
inductive DecidedItems (index : Nat) (items : List Json) : Prop where
  | sound {ps : List Predicate} (faultless : ∀ c ∈ items, ∀ way, faultAt? way c = none)
    (answer : ofJsonChildren index items = .ok ps)
  | fault {i : Nat} {c : Json} {way : List Nat} {e : PredicateError} (item : items[i]? = some c)
    (before : ∀ k < i, ∀ d, items[k]? = some d → ∀ way, faultAt? way d = none)
    (first : FirstFault c way e)
    (answer : ofJsonChildren index items = .error (e.reported ((index + i) :: way)))

theorem decidedItems {items : List Json} (h : ∀ c ∈ items, Decided c) (index : Nat) :
    DecidedItems index items := by
  induction items generalizing index with
  | nil => exact .sound (by simp) (by rw [ofJsonChildren])
  | cons c rest ih =>
    obtain ⟨hc, hrest⟩ := List.forall_mem_cons.1 h
    cases hc with
    | fault hfirst hanswer =>
      refine .fault (i := 0) rfl (fun k hk => absurd hk (Nat.not_lt_zero k)) hfirst ?_
      rw [ofJsonChildren, hanswer]
      exact congrArg Except.error (PredicateError.inChild_reported ..)
    | sound hfaultless hanswer =>
      have hread := ofJsonChildren.eq_2 index c rest
      rw [hanswer] at hread
      cases ih hrest (index + 1) with
      | sound hall hitems =>
        rw [hitems] at hread
        exact .sound (List.forall_mem_cons.2 ⟨hfaultless, hall⟩) hread
      | @fault i d way e hitem hbefore hfirst hitems =>
        rw [hitems, Nat.add_right_comm] at hread
        refine .fault (i := i + 1) hitem (fun k hk d' hd' => ?_) hfirst hread
        cases k with
        | zero =>
          cases hd'
          exact hfaultless
        | succ k => exact hbefore k (Nat.lt_of_succ_lt_succ hk) d' hd'

/-- The first fault of a child is the first one of its parent, if neither the parent nor a child
before has any. -/
theorem FirstFault.child {j c : Json} {i : Nat} {way : List Nat} {e : PredicateError}
    (hown : fault? j = none) (hitem : (childNodes j)[i]? = some c)
    (hbefore : ∀ k < i, ∀ d, (childNodes j)[k]? = some d → ∀ way, faultAt? way d = none)
    (h : FirstFault c way e) : FirstFault j (i :: way) e where
  fails := by
    rw [faultAt?_cons, hitem]
    exact h.fails
  first := by
    intro earlier hearlier
    cases hearlier with
    | nil => exact hown
    | @cons _ rest _ hrest =>
      rw [faultAt?_cons, hitem]
      exact h.first rest hrest
    | @rel k rest _ _ hk =>
      rw [faultAt?_cons, Option.bind_eq_none_iff]
      exact fun d hd => hbefore k hk d hd rest

theorem decided (j : Json) : Decided j := by
  have hitems : DecidedItems 0 (childNodes j) :=
    decidedItems (fun c hc => have := sizeOf_childNodes hc; decided c) 0
  cases outcome j with
  | fault hown hanswer =>
    have hfirst : FirstFault j [] _ := ⟨hown, fun earlier hearlier => by cases hearlier⟩
    refine .fault hfirst ?_
    rw [hanswer, PredicateError.reported_nil]
  | single hown hnodes hanswer =>
    refine .sound (fun way => ?_) hanswer
    cases way with
    | nil => exact hown
    | cons index way =>
      rw [faultAt?_cons, hnodes]
      rfl
  | compound c hown hanswer =>
    cases hitems with
    | sound hall hread =>
      rw [hread] at hanswer
      refine .sound (fun way => ?_) hanswer
      cases way with
      | nil => exact hown
      | cons index way =>
        rw [faultAt?_cons, Option.bind_eq_none_iff]
        exact fun d hd => hall d (List.mem_of_getElem? hd) way
    | fault hitem hbefore hfirst hread =>
      rw [hread, Nat.zero_add] at hanswer
      exact .fault (hfirst.child hown hitem hbefore) hanswer
termination_by sizeOf j

/-- What is read from a document hangs on its first fault alone: without any there is a predicate,
and otherwise the first fault is reported, within one error for each index of its way unless it is
an unknown name, the reason of each being the text of the error inside. Documents that agree up to
there have the same answer. -/
theorem ofJson_firstFault (j : Json) :
    (∃ p, ofJson j = .ok p ∧ ∀ way, faultAt? way j = none) ∨
      ∃ way e, FirstFault j way e ∧ ofJson j = .error (e.reported way) ∧
        e.reported way = (if e.isUnknownName then e else e.wrapped way) ∧
        (e.wrapped way).message = way.foldr PredicateError.aroundReason e.message ∧
        ∀ other, (∀ upTo, Before upTo way ∨ upTo = way → faultAt? upTo other = faultAt? upTo j) →
          ofJson other = ofJson j := by
  cases decided j with
  | sound hfaultless hanswer => exact .inl ⟨_, hanswer, hfaultless⟩
  | @fault way e hfirst hanswer =>
    refine .inr ⟨way, e, hfirst, hanswer, rfl, e.message_wrapped way, fun other hagree => ?_⟩
    have hother : FirstFault other way e := by
      refine ⟨?_, fun earlier hearlier => ?_⟩
      · rw [hagree way (.inr rfl), hfirst.fails]
      · rw [hagree earlier (.inl hearlier), hfirst.first earlier hearlier]
    cases decided other with
    | sound hfaultless _ =>
      have hfails := hother.fails
      rw [hfaultless way] at hfails
      cases hfails
    | fault hfirst' hanswer' =>
      obtain ⟨rfl, rfl⟩ := hother.unique hfirst'
      rw [hanswer, hanswer']

end Predicate
end Sieve
