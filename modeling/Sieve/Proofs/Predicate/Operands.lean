import Mathlib
import Sieve.Proofs.Number.Characters
import Sieve.Proofs.Predicate.Reading

/-!
# Sieve.Proofs.Predicate.Operands

Written operands read back, lists of them too. The reader makes integers signed if they fit, so that
an unsigned integer may come back as the signed one of the same number: `value_display`,
`valueList_display`.
-/

namespace Sieve

open Text

/-- The sign and the digits of an integer. -/
theorem integerChars_eq (n : Int) :
    Json.integerChars n = Binary64.withSign (decide (n < 0)) (Nat.toDigits 10 n.natAbs) := by
  simp only [Json.integerChars, Binary64.withSign, decide_eq_true_eq]

theorem integerRead?_integerChars (n : Int) :
    Integer.read? (Json.integerChars n) = some n := by
  rw [integerChars_eq]
  rcases lt_or_ge n 0 with hn | hn
  · have hneg : -(n.natAbs : Int) = n := by omega
    simp only [Binary64.withSign, hn, decide_true, if_true, Integer.read?, readDigits?_toDigits]
    exact congrArg some hneg
  · have hpos : (n.natAbs : Int) = n := by omega
    simp only [Binary64.withSign, not_lt.2 hn, decide_false, Bool.false_eq_true, if_false,
      integerRead?_toDigits, hpos]

theorem naturalRead?_toDigits (n : Nat) : Natural.read? (Nat.toDigits 10 n) = some n := by
  obtain ⟨c, cs, hcs, hc⟩ := toDigits_cases n
  have hread := readDigits?_toDigits n
  rw [hcs] at hread ⊢
  rw [naturalRead?_digits hc, hread]

theorem int64Read?_toInt (n : Int64) : Int64.read? (Json.integerChars n.toInt) = some n := by
  have hleast : Integer.least64 ≤ n.toInt := n.le_toInt
  have hgreatest : n.toInt ≤ Integer.greatest64 := by
    have := n.toInt_lt
    unfold Integer.greatest64
    omega
  simp only [Int64.read?, integerRead?_integerChars, Option.bind_some, hleast, hgreatest, and_self,
    if_true, Int64.ofInt_toInt]

namespace Scalar

/-- The scalar with the same number whose integers are signed if they fit. -/
def canonical : Scalar → Scalar
  | .uint n => if n.toNat < 2 ^ 63 then .int (Int64.ofNat n.toNat) else .uint n
  | s => s

theorem isFinite_canonical {s : Scalar} (h : s.isFinite = true) : s.canonical.isFinite = true := by
  cases s with
  | uint n =>
    by_cases hn : n.toNat < 2 ^ 63
    · simp only [canonical, if_pos hn, isFinite]
    · simp only [canonical, if_neg hn, isFinite]
  | _ => exact h

/-- A canonical scalar is the one it comes from up to the kind of an integer. -/
theorem same_canonical {s : Scalar} (h : s.isFinite = true) : s.canonical.same s = true := by
  cases s with
  | bool b => simp [canonical, same]
  | int n => simp [canonical, same, integer?]
  | text s => simp [canonical, same]
  | float x =>
    cases x with
    | finite x =>
      simp [canonical, same, Binary64.equal, Binary64.compare?, Binary64.place?]
    | infinite negative => cases h
    | nan => cases h
  | uint n =>
    by_cases hn : n.toNat < 2 ^ 63
    · have hval : (Int64.ofNat n.toNat).toInt = n.toNat := Int64.toInt_ofNat_of_lt hn
      simp only [canonical, if_pos hn, same, integer?, hval, beq_self_eq_true]
    · simp only [canonical, if_neg hn, same, integer?, beq_self_eq_true]

end Scalar

/-- The values that a condition compares with. -/
def Condition.operands : Condition → List Operand
  | .comparison _ o => [o]
  | .membership _ items => items
  | .textual _ o => [o]
  | .nullness _ => []

/-- The operand with the canonical scalar. -/
def Operand.canonical (o : Operand) : Operand :=
  ⟨o.scalar.canonical, Scalar.isFinite_canonical o.finite⟩

def Condition.canonical : Condition → Condition
  | .comparison op o => .comparison op o.canonical
  | .membership negated items => .membership negated (items.map Operand.canonical)
  | .textual test o => .textual test o.canonical
  | .nullness negated => .nullness negated

def Leaf.canonical (l : Leaf) : Leaf := ⟨l.field, l.condition.canonical⟩

theorem Condition.operator_canonical (c : Condition) : c.canonical.operator = c.operator := by
  cases c <;> rfl

theorem Condition.same_items (os : List Operand) :
    Value.sameItems ((os.map Operand.canonical).map fun o => .scalar o.scalar)
      (os.map fun o => .scalar o.scalar) = true := by
  induction os with
  | nil => rfl
  | cons o os ih =>
    simp only [List.map_cons, Value.sameItems, Value.same, Bool.and_eq_true]
    exact ⟨Scalar.same_canonical o.finite, ih⟩

theorem Condition.same_value (c : Condition) : c.canonical.value.same c.value = true := by
  cases c with
  | comparison op o => exact Scalar.same_canonical o.finite
  | membership negated items => exact Condition.same_items items
  | textual test o => exact Scalar.same_canonical o.finite
  | nullness negated => rfl

theorem Leaf.same_canonical (l : Leaf) :
    Predicate.same (.leaf l.canonical) (.leaf l) = true := by
  simp only [Predicate.same, Leaf.canonical, Condition.operator_canonical, Condition.same_value,
    beq_self_eq_true, decide_true, Bool.and_self]

namespace Expression

section Value

variable {rest : List Char}

/-- A number is taken as a whole, also where it means nothing. -/
theorem value_taken {cs : List Char} (hfirst : ∃ c cs', cs = c :: cs' ∧ startsNumber c = true)
    (hall : ∀ c ∈ cs, isNumberChar c = true) (hr : Boundary rest) :
    value (cs ++ rest) =
      match numberValue? cs with
      | some s => .ok (.scalar s, rest)
      | none => .error rest := by
  obtain ⟨c, cs', rfl, hc⟩ := hfirst
  have hquote : ¬ (c = '"' ∨ c = '\x27') := by
    rintro (rfl | rfl) <;> exact absurd hc (by decide)
  have hrun := run_append (List.cons_ne_nil c cs') hall (hr.stops (by decide))
  rw [List.cons_append] at hrun ⊢
  cases hread : numberValue? (c :: cs') <;>
    simp only [value, if_neg hquote, hc, if_true, hrun, hread, bind, Except.bind]

theorem value_number {cs : List Char} {s : Scalar}
    (hfirst : ∃ c cs', cs = c :: cs' ∧ startsNumber c = true)
    (hall : ∀ c ∈ cs, isNumberChar c = true) (hread : numberValue? cs = some s)
    (hr : Boundary rest) : value (cs ++ rest) = .ok (.scalar s, rest) := by
  rw [value_taken hfirst hall hr, hread]

theorem isNumberChar_of_isDigit {c : Char} (h : c.isDigit = true) :
    startsNumber c = true ∧ isNumberChar c = true := by
  simp [isNumberChar, startsNumber, h]

/-- The characters of an integer. -/
theorem integerChars_spec (n : Int) :
    (∃ c cs, Json.integerChars n = c :: cs ∧ startsNumber c = true) ∧
      ∀ c ∈ Json.integerChars n, c.isDigit = true ∨ c = '-' := by
  have hdigit : ∀ c ∈ Nat.toDigits 10 n.natAbs, c.isDigit = true := fun c hc =>
    isDigit_of_mem_toDigits hc
  rw [integerChars_eq]
  cases decide (n < 0) with
  | true =>
    refine ⟨⟨'-', _, rfl, rfl⟩, fun c hc => ?_⟩
    rcases List.mem_cons.1 hc with rfl | hc
    · exact .inr rfl
    · exact .inl (hdigit c hc)
  | false =>
    have hne : Nat.toDigits 10 n.natAbs ≠ [] := Nat.toDigits_ne_nil
    obtain ⟨c, cs, hcs⟩ := List.exists_cons_of_ne_nil hne
    refine ⟨⟨c, cs, hcs, ?_⟩, fun c hc => .inl (hdigit c hc)⟩
    exact (isNumberChar_of_isDigit (hdigit c (hcs ▸ List.mem_cons_self ..))).1

theorem value_integer {n : Int} {s : Scalar}
    (h : (match Int64.read? (Json.integerChars n) with
      | some n => some (Scalar.int n)
      | none => (UInt64.read? (Json.integerChars n)).map .uint) = some s)
    (hr : Boundary rest) :
    value ((Scalar.integerText n).toList ++ rest) = .ok (.scalar s, rest) := by
  obtain ⟨hfirst, hall⟩ := integerChars_spec n
  have hplain : (Json.integerChars n).any (fun c => c == '.' || c == 'e' || c == 'E') = false := by
    rw [List.any_eq_false]
    intro c hc
    rcases hall c hc with hdigit | rfl
    · intro hmark
      simp only [Bool.or_eq_true, beq_iff_eq] at hmark
      rcases hmark with (rfl | rfl) | rfl <;> exact absurd hdigit (by decide)
    · decide
  have hread : numberValue? (Json.integerChars n) = some s := by
    simp only [numberValue?, hplain, Bool.false_eq_true, if_false]
    exact h
  rw [Scalar.integerText, String.toList_ofList]
  refine value_number hfirst (fun c hc => ?_) hread hr
  rcases hall c hc with hdigit | rfl
  · exact (isNumberChar_of_isDigit hdigit).2
  · rfl

theorem value_int (n : Int64) (hr : Boundary rest) :
    value ((Scalar.int n).display.toList ++ rest) = .ok (.scalar (.int n), rest) := by
  refine value_integer ?_ hr
  rw [int64Read?_toInt]

theorem value_uint (n : UInt64) (hr : Boundary rest) :
    value ((Scalar.uint n).display.toList ++ rest) =
      .ok (.scalar (Scalar.uint n).canonical, rest) := by
  refine value_integer ?_ hr
  have hlt := n.toNat_lt
  by_cases hn : n.toNat < 2 ^ 63
  · have hread : Int64.read? (Json.integerChars n.toNat) = some (Int64.ofNat n.toNat) := by
      have hleast : Integer.least64 ≤ (n.toNat : Int) := by
        unfold Integer.least64
        omega
      have hgreatest : (n.toNat : Int) ≤ Integer.greatest64 := by
        unfold Integer.greatest64
        omega
      simp only [Int64.read?, integerRead?_integerChars, Option.bind_some, hleast, hgreatest,
        and_self, if_true]
      rfl
    rw [hread, Scalar.canonical, if_pos hn]
  · have hread : Int64.read? (Json.integerChars n.toNat) = none := by
      have hgreatest : ¬ (n.toNat : Int) ≤ Integer.greatest64 := by
        unfold Integer.greatest64
        omega
      simp only [Int64.read?, integerRead?_integerChars, Option.bind_some, hgreatest, and_false,
        if_false]
    have hchars : Json.integerChars n.toNat = Nat.toDigits 10 n.toNat := by
      simp [Json.integerChars]
    have hle : n.toNat ≤ Natural.greatest64 := by
      unfold Natural.greatest64
      omega
    rw [hread, hchars, Scalar.canonical, if_neg hn]
    simp only [UInt64.read?, naturalRead?_toDigits, Option.bind_some, if_pos hle,
      UInt64.ofNat_toNat, Option.map_some]

/-- Written characters are those of numbers. -/
theorem isNumberChar_of_isWritten {c : Char} (h : Layout.IsWritten c) : isNumberChar c = true := by
  rcases h with hdigit | rfl | rfl | rfl | rfl
  · exact (isNumberChar_of_isDigit hdigit).2
  all_goals decide

/-- The characters of a finite number. -/
theorem finite_spec (x : Finite) :
    (∃ c cs, (Scalar.float (.finite x)).display.toList = c :: cs ∧ startsNumber c = true) ∧
      ∀ c ∈ (Scalar.float (.finite x)).display.toList, isNumberChar c = true := by
  obtain ⟨cs, hcs, ⟨c, cs', hcons, hdigit⟩, hall⟩ := Scalar.writtenNumber.write_body x.negative
    (Decimal.shortest Scalar.writtenNumber.tie x)
  have hchars : (Scalar.float (.finite x)).display.toList = Binary64.withSign x.negative cs := by
    simp only [Scalar.display, Layout.number, Layout.finite, String.toList_ofList, hcs]
  rw [hchars]
  cases x.negative with
  | true =>
    refine ⟨⟨'-', cs, rfl, rfl⟩, fun d hd => ?_⟩
    rcases List.mem_cons.1 hd with rfl | hd
    · rfl
    · exact isNumberChar_of_isWritten (hall d hd)
  | false =>
    exact ⟨⟨c, cs', hcons, (isNumberChar_of_isDigit hdigit).1⟩,
      fun d hd => isNumberChar_of_isWritten (hall d hd)⟩

theorem value_finite (x : Finite) (hr : Boundary rest) :
    value ((Scalar.float (.finite x)).display.toList ++ rest) =
      .ok (.scalar (.float (.finite x)), rest) := by
  have hback : Binary64.read? (Scalar.float (.finite x)).display.toList = some (.finite x) :=
    Binary64.read?_finite Scalar.writtenNumber x
  have hmark : (Scalar.float (.finite x)).display.toList.any
      (fun c => c == '.' || c == 'e' || c == 'E') = true := by
    have hchars : (Scalar.float (.finite x)).display.toList = Scalar.writtenNumber.write x.negative
        (Decimal.shortest Scalar.writtenNumber.tie x) := by
      simp only [Scalar.display, Layout.number, Layout.finite, String.toList_ofList]
    rw [hchars, List.any_eq_true]
    rcases Layout.write_marked (l := Scalar.writtenNumber) rfl x.negative
      (Decimal.shortest Scalar.writtenNumber.tie x) with h | h
    · exact ⟨'.', h, rfl⟩
    · exact ⟨'e', h, rfl⟩
  have hread : numberValue? (Scalar.float (.finite x)).display.toList =
      some (.float (.finite x)) := by
    simp only [numberValue?, hmark, if_true, hback, Option.map_some]
  exact value_number (finite_spec x).1 (finite_spec x).2 hread hr

theorem value_bool (b : Bool) (hr : Boundary rest) :
    value ((Scalar.bool b).display.toList ++ rest) = .ok (.scalar (.bool b), rest) := by
  have hstop : Stops isWordChar rest := hr.stops (by decide)
  cases b with
  | true =>
    have hword := word_append (w := "true".toList) (by decide) (by decide) hstop
    have hvalue : value ("true".toList ++ rest) = wordValue ("true".toList ++ rest) := rfl
    rw [Scalar.display, Scalar.truth, if_pos rfl, hvalue, wordValue, hword]
    rfl
  | false =>
    have hword := word_append (w := "false".toList) (by decide) (by decide) hstop
    have hvalue : value ("false".toList ++ rest) = wordValue ("false".toList ++ rest) := rfl
    rw [Scalar.display, Scalar.truth, if_neg Bool.false_ne_true, hvalue, wordValue, hword]
    rfl

theorem quoted?_cons {quote c : Char} (hslash : c ≠ '\\') (hquote : c ≠ quote) (cs : List Char) :
    quoted? quote (c :: cs) =
      (quoted? quote cs).map fun (text, after) => (c :: text, after) := by
  cases cs with
  | nil => simp [quoted?, hslash, hquote]
  | cons d ds => simp [quoted?, hslash, hquote]

theorem quoted?_quotedChars (cs rest : List Char) :
    quoted? '"' (cs.flatMap Scalar.quotedChar ++ '"' :: rest) = some (cs, rest) := by
  induction cs with
  | nil =>
    cases rest with
    | nil => rfl
    | cons d ds => rfl
  | cons c cs ih =>
    rw [List.flatMap_cons, List.append_assoc, Scalar.quotedChar]
    by_cases hc : c = '"' ∨ c = '\\'
    · rw [if_pos hc]
      simp [quoted?, ih]
    · rw [if_neg hc, List.singleton_append,
        quoted?_cons (fun h => hc (.inr h)) (fun h => hc (.inl h)), ih]
      rfl

theorem value_text (s : String) (rest : List Char) :
    value ((Scalar.text s).display.toList ++ rest) = .ok (.scalar (.text s), rest) := by
  have hquoted := quoted?_quotedChars s.toList rest
  have hchars : (Scalar.text s).display.toList ++ rest =
      '"' :: (s.toList.flatMap Scalar.quotedChar ++ '"' :: rest) := by
    simp [Scalar.display, Scalar.quotedText]
  rw [hchars]
  simp only [value, true_or, if_true, hquoted, String.ofList_toList]

/-- A written scalar reads back. -/
theorem value_display {s : Scalar} (h : s.isFinite = true) (hr : Boundary rest) :
    value (s.display.toList ++ rest) = .ok (.scalar s.canonical, rest) := by
  cases s with
  | bool b => exact value_bool b hr
  | int n => exact value_int n hr
  | uint n => exact value_uint n hr
  | text s => exact value_text s rest
  | float x =>
    cases x with
    | finite x => exact value_finite x hr
    | infinite negative => cases h
    | nan => cases h

/-- What a value starts with. -/
theorem value_start {cs : List Char} {r : Value × List Char} (h : value cs = .ok r) :
    ∃ c cs', cs = c :: cs' ∧ isBlank c = false ∧ c ≠ ')' := by
  cases cs with
  | nil => cases h
  | cons c cs =>
    refine ⟨c, cs, rfl, ?_⟩
    by_cases hquote : c = '"' ∨ c = '\x27'
    · rcases hquote with rfl | rfl <;> decide
    by_cases hnumber : startsNumber c = true
    · simp only [startsNumber, Bool.or_eq_true, beq_iff_eq] at hnumber
      refine ⟨?_, ?_⟩
      · cases hb : isBlank c with
        | false => rfl
        | true =>
          simp only [isBlank, Bool.or_eq_true, beq_iff_eq] at hb
          rcases hb with ((rfl | rfl) | rfl) | rfl <;> exact absurd hnumber (by decide)
      · rintro rfl
        exact absurd hnumber (by decide)
    · have hword : isWordChar c = true := by
        simp only [value, if_neg hquote, if_neg hnumber, wordValue, word, run, bind,
          Except.bind] at h
        cases hc : isWordChar c with
        | true => rfl
        | false => simp [hc] at h
      refine ⟨isBlank_of_isWordChar hword, ?_⟩
      rintro rfl
      exact absurd hword (by decide)

theorem display_start {s : Scalar} (h : s.isFinite = true) (hr : Boundary rest) :
    skipBlank (s.display.toList ++ rest) = s.display.toList ++ rest := by
  obtain ⟨c, cs, hcs, hblank, -⟩ := value_start (value_display h hr)
  rw [hcs]
  exact skipBlank_of_stops (stops_cons.2 hblank)

theorem values_space (fuel : Nat) (cs : List Char) :
    values (fuel + 1) (' ' :: cs) = values (fuel + 1) cs := rfl

theorem values_display {ss : List Scalar} (hne : ss ≠ []) (hfin : ∀ s ∈ ss, s.isFinite = true)
    {fuel : Nat} (hfuel : ss.length ≤ fuel) (rest : List Char) :
    values fuel ((Value.displayItems (ss.map .scalar)).toList ++ ')' :: rest) =
      .ok (ss.map fun s => .scalar s.canonical, ')' :: rest) := by
  induction ss generalizing fuel with
  | nil => exact absurd rfl hne
  | cons s ss ih =>
    have hs := hfin s (List.mem_cons_self ..)
    rw [List.length_cons] at hfuel
    obtain ⟨fuel, rfl⟩ : ∃ n, fuel = n + 1 := ⟨fuel - 1, by omega⟩
    cases ss with
    | nil =>
      have hr : Boundary (')' :: rest) := boundary_cons.2 (.inr (.inl rfl))
      have hclose : skipBlank (')' :: rest) = ')' :: rest :=
        skipBlank_of_stops (stops_cons.2 (by decide))
      simp only [List.map_cons, List.map_nil, Value.displayItems, Value.display, values,
        display_start hs hr, value_display hs hr, bind, Except.bind, hclose]
      rfl
    | cons t ts =>
      have hfuel' : (t :: ts).length ≤ fuel := by omega
      have hrest := ih (List.cons_ne_nil t ts) (fun u hu => hfin u (List.mem_cons_of_mem _ hu))
        hfuel'
      generalize hmore : (Value.displayItems ((t :: ts).map .scalar)).toList ++ ')' :: rest = more
        at hrest
      have hr : Boundary (',' :: ' ' :: more) := boundary_cons.2 (.inr (.inr rfl))
      have hcomma : skipBlank (',' :: ' ' :: more) = ',' :: ' ' :: more :=
        skipBlank_of_stops (stops_cons.2 (by decide))
      have hchars : (Value.displayItems ((s :: t :: ts).map .scalar)).toList ++ ')' :: rest =
          s.display.toList ++ ',' :: ' ' :: more := by
        rw [← hmore]
        simp [Value.displayItems, Value.display]
      obtain ⟨fuel, rfl⟩ : ∃ n, fuel = n + 1 := ⟨fuel - 1, by simp at hfuel; omega⟩
      rw [hchars, values]
      simp only [display_start hs hr, value_display hs hr, bind, Except.bind, hcomma,
        values_space, hrest]
      rfl

/-- A list of items starts with its first item. -/
theorem displayItems_start {s : Scalar} (h : s.isFinite = true) (vs : List Value) :
    ∃ c cs, (Value.displayItems (.scalar s :: vs)).toList = c :: cs ∧
      isBlank c = false ∧ c ≠ ')' := by
  obtain ⟨c, cs, hcs, hc⟩ := value_start (value_display h boundary_nil)
  rw [List.append_nil] at hcs
  cases vs with
  | nil => exact ⟨c, cs, hcs, hc⟩
  | cons w ws =>
    refine ⟨c, cs ++ (", " ++ Value.displayItems (w :: ws)).toList, ?_, hc⟩
    simp [Value.displayItems, Value.display, hcs]

/-- Commas outnumber the items but for one. -/
theorem length_le_displayItems (vs : List Value) :
    vs.length ≤ (Value.displayItems vs).toList.length + 1 := by
  induction vs with
  | nil => simp
  | cons v vs ih =>
    cases vs with
    | nil => simp
    | cons w ws =>
      have hcomma : (", " : String).toList.length = 2 := rfl
      simp only [Value.displayItems, String.toList_append, List.length_append, hcomma,
        List.length_cons] at ih ⊢
      omega

theorem valueList_display {ss : List Scalar} (hfin : ∀ s ∈ ss, s.isFinite = true)
    (rest : List Char) :
    valueList ((Value.list (ss.map .scalar)).display.toList ++ rest) =
      .ok (.list (ss.map fun s => .scalar s.canonical), rest) := by
  cases hcase : ss with
  | nil => rfl
  | cons s more =>
    rw [← hcase]
    have hne : ss ≠ [] := by
      rw [hcase]
      exact List.cons_ne_nil s more
    generalize hitems : (Value.displayItems (ss.map .scalar)).toList = items
    have hfuel : ss.length ≤ (items ++ ')' :: rest).length + 1 := by
      have := length_le_displayItems (ss.map .scalar)
      rw [hitems, List.length_map] at this
      simp only [List.length_append, List.length_cons]
      omega
    have hread := values_display hne hfin hfuel rest
    obtain ⟨c, cs, hcs, hblank, hclose⟩ :=
      displayItems_start (hfin s (by rw [hcase]; exact List.mem_cons_self ..)) (more.map .scalar)
    have hstart : items = c :: cs := by
      rw [← hitems, hcase, List.map_cons, hcs]
    rw [hitems] at hread
    have hchars : (Value.list (ss.map .scalar)).display.toList ++ rest =
        '(' :: (items ++ ')' :: rest) := by
      rw [← hitems]
      simp [Value.display]
    have hskip : skipBlank (items ++ ')' :: rest) = items ++ ')' :: rest := by
      rw [hstart]
      exact skipBlank_of_stops (stops_cons.2 hblank)
    have hend : skipBlank (')' :: rest) = ')' :: rest :=
      skipBlank_of_stops (stops_cons.2 (by decide))
    have hopen : mark '(' ('(' :: (items ++ ')' :: rest)) = .ok ((), items ++ ')' :: rest) := rfl
    rw [hchars, valueList, hopen]
    simp only [bind, Except.bind, hskip]
    split
    · rename_i heq
      rw [hstart] at heq
      exact absurd (List.cons.inj heq).1 hclose
    · rw [hread]
      simp only [hend]
      rfl

end Value

end Expression
end Sieve
