import Sieve.Proofs.Json.Literals

/-!
# Sieve.Proofs.Json.Documents

Printed documents read back. A document whose objects hold their members in key order, and whose
numbers read back by themselves, comes back from its text if it is nested as deep as the reader
allows; a document that is nested deeper is refused: `value?_chars`, `read?_compact`.
-/

namespace Sieve

namespace Entries

variable {α : Type u}

theorem sorted_iff {entries : Entries α} :
    Sorted entries ↔ (entries.map Prod.fst).Pairwise (· < ·) :=
  List.pairwise_map.symm

end Entries

namespace Json

open Text (Stops)

mutual

/-- Objects hold their members in key order, each key once, and numbers read back. -/
def Readable : Json → Prop
  | .decimal x => ReadsBack x
  | .array items => ReadableItems items
  | .object members => Entries.Sorted members ∧ ReadableMembers members
  | _ => True

def ReadableItems : List Json → Prop
  | [] => True
  | j :: js => Readable j ∧ ReadableItems js

def ReadableMembers : List (String × Json) → Prop
  | [] => True
  | (_, j) :: ms => Readable j ∧ ReadableMembers ms

end

namespace Reader

section Start

variable {c : Char} {cs : List Char}

theorem skipBlank_of_start (h : isBlank c = false) : skipBlank (c :: cs) = c :: cs :=
  List.dropWhile_cons_of_neg (by simp [h])

theorem isBlank_of_digit (h : c.isDigit = true ∨ c = '-') : isBlank c = false := by
  rcases h with h | rfl
  · exact isBlank_of_isWritten (.inl h)
  · decide

theorem integer_start (n : Int) :
    ∃ c cs, integerChars n = c :: cs ∧ (c.isDigit = true ∨ c = '-') := by
  obtain ⟨c, cs, hcs, hc⟩ := toDigits_cases n.natAbs
  rw [integerChars]
  split
  · exact ⟨'-', _, rfl, .inr rfl⟩
  · exact ⟨c, cs, hcs, .inl hc⟩

theorem decimal_start (x : Finite) :
    ∃ c cs, chars (.decimal x) = c :: cs ∧ (c.isDigit = true ∨ c = '-') := by
  obtain ⟨c, cs, hc, -, hchars⟩ := decimal_chars x
  rw [hchars]
  cases x.negative with
  | true => exact ⟨'-', _, rfl, .inr rfl⟩
  | false => exact ⟨c, cs, rfl, .inl hc⟩

/-- What a printed document starts with. -/
theorem chars_start (j : Json) : ∃ c cs, chars j = c :: cs ∧ isBlank c = false ∧ c ≠ ']' := by
  have hnumber : ∀ {c : Char}, (c.isDigit = true ∨ c = '-') → isBlank c = false ∧ c ≠ ']' := by
    intro c hc
    refine ⟨isBlank_of_digit hc, ?_⟩
    rintro rfl
    exact absurd hc (by decide)
  cases j with
  | null => exact ⟨'n', _, rfl, by decide⟩
  | bool b => cases b with
    | true => exact ⟨'t', _, rfl, by decide⟩
    | false => exact ⟨'f', _, rfl, by decide⟩
  | integer n =>
    obtain ⟨c, cs, hcs, hc⟩ := integer_start n.val
    exact ⟨c, cs, by rw [chars, hcs], hnumber hc⟩
  | decimal x =>
    obtain ⟨c, cs, hcs, hc⟩ := decimal_start x
    exact ⟨c, cs, hcs, hnumber hc⟩
  | text s => exact ⟨'"', _, rfl, by decide⟩
  | array items => exact ⟨'[', _, rfl, by decide⟩
  | object members => exact ⟨'\x7b', _, rfl, by decide⟩

/-- What follows the bracket of an array with items. -/
theorem itemChars_start (j : Json) (js : List Json) (rest : List Char) :
    ∃ c cs, itemChars (j :: js) ++ rest = c :: cs ∧ isBlank c = false ∧ c ≠ ']' := by
  obtain ⟨c, cs, hcs, hc⟩ := chars_start j
  cases js with
  | nil => exact ⟨c, cs ++ rest, by rw [itemChars, hcs]; rfl, hc⟩
  | cons k js =>
    refine ⟨c, cs ++ ',' :: itemChars (k :: js) ++ rest, ?_, hc⟩
    rw [itemChars, hcs]
    · rfl
    · exact List.cons_ne_nil k js

theorem memberChars_start (m : String × Json) (ms : List (String × Json)) (rest : List Char) :
    ∃ cs, memberChars (m :: ms) ++ rest = '"' :: cs := by
  obtain ⟨key, j⟩ := m
  cases ms with
  | nil => exact ⟨_, rfl⟩
  | cons n ms => exact ⟨_, rfl⟩

end Start

section Containers

variable {cs rest : List Char} {fuel depth : Nat}

theorem value?_text (s : String) (h : s.toList.length < fuel) :
    value? (fuel + 1) depth (quoted s ++ rest) = some (.text s, rest) := by
  have hchars : quoted s ++ rest = '"' :: (s.toList.flatMap escaped ++ '"' :: rest) := by
    simp [quoted]
  have hskip : skipBlank ('"' :: (s.toList.flatMap escaped ++ '"' :: rest)) =
      '"' :: (s.toList.flatMap escaped ++ '"' :: rest) := skipBlank_of_start (by decide)
  rw [hchars, value?, hskip]
  simp only [quoted?_escaped _ _ h, bind, Option.bind, pure, String.ofList_toList]

/-- An array with items is its items, one level deeper. -/
theorem value?_items {c : Char} (h : isBlank c = false ∧ c ≠ ']') :
    value? (fuel + 1) (depth + 1) ('[' :: c :: cs) =
      (items? fuel depth (c :: cs)).map fun (items, rest) => (.array items, rest) := by
  have hopen : skipBlank ('[' :: c :: cs) = '[' :: c :: cs := skipBlank_of_start (by decide)
  rw [value?, hopen]
  simp only [Nat.succ_ne_zero, if_false, skipBlank_of_start h.1, Nat.add_sub_cancel]
  split
  · rename_i heq
    exact absurd (List.cons.inj heq).1 h.2
  · cases items? fuel depth (c :: cs) <;> rfl

theorem value?_members :
    value? (fuel + 1) (depth + 1) ('\x7b' :: '"' :: cs) =
      (members? fuel depth ('"' :: cs)).map fun (members, rest) => (ofMembers members, rest) := by
  have hopen : skipBlank ('\x7b' :: '"' :: cs) = '\x7b' :: '"' :: cs :=
    skipBlank_of_start (by decide)
  have hquote : skipBlank ('"' :: cs) = '"' :: cs := skipBlank_of_start (by decide)
  rw [value?, hopen]
  simp only [Nat.succ_ne_zero, if_false, hquote, Nat.add_sub_cancel]
  split
  · rename_i heq
    exact absurd (List.cons.inj heq).1 (by decide)
  · cases members? fuel depth ('"' :: cs) <;> rfl

/-- A member is its key in quotes, a colon and its document. -/
theorem members?_step (key : String) (h : key.toList.length < fuel) :
    members? (fuel + 1) depth (quoted key ++ ':' :: cs) =
      (value? fuel depth cs).bind fun (j, rest) =>
        match skipBlank rest with
        | ',' :: rest => (members? fuel depth rest).map fun (ms, rest) => ((key, j) :: ms, rest)
        | '\x7d' :: rest => some ([(key, j)], rest)
        | _ => none := by
  have hchars : quoted key ++ ':' :: cs =
      '"' :: (key.toList.flatMap escaped ++ '"' :: ':' :: cs) := by
    simp [quoted]
  have hskip : skipBlank ('"' :: (key.toList.flatMap escaped ++ '"' :: ':' :: cs)) =
      '"' :: (key.toList.flatMap escaped ++ '"' :: ':' :: cs) := skipBlank_of_start (by decide)
  have hcolon : skipBlank (':' :: cs) = ':' :: cs := skipBlank_of_start (by decide)
  rw [hchars, members?, hskip]
  simp only [quoted?_escaped _ _ h, bind, Option.bind_some, hcolon, pure, String.ofList_toList]
  cases value? fuel depth cs with
  | none => rfl
  | some found =>
    obtain ⟨j, rest⟩ := found
    simp only [Option.bind_some, Option.map_eq_bind]
    rfl

/-- An item comes before a comma or the closing bracket. -/
theorem items?_step : items? (fuel + 1) depth cs =
    (value? fuel depth cs).bind fun (j, rest) =>
      match skipBlank rest with
      | ',' :: rest => (items? fuel depth rest).map fun (js, rest) => (j :: js, rest)
      | ']' :: rest => some ([j], rest)
      | _ => none := by
  rw [items?]
  cases value? fuel depth cs with
  | none => rfl
  | some found =>
    obtain ⟨j, rest⟩ := found
    simp only [bind, Option.bind_some, pure, Option.map_eq_bind]
    rfl

end Containers

theorem length_chars_pos (j : Json) : 0 < (chars j).length := by
  obtain ⟨c, cs, hcs, -⟩ := chars_start j
  rw [hcs]
  exact Nat.succ_pos _

theorem length_quoted (s : String) : s.toList.length + 2 ≤ (quoted s).length := by
  have hlength := length_le_escaped s.toList
  rw [quoted, List.length_append, List.length_cons, List.length_singleton]
  omega

mutual

/-- A printed document comes back if it is not nested too deep, and not otherwise. -/
theorem value?_chars : ∀ (j : Json) (rest : List Char) (fuel depth : Nat), Readable j →
    Stops goesOn rest → 2 * (chars j).length ≤ fuel + 1 →
    value? (fuel + 1) depth (chars j ++ rest) = if j.depth ≤ depth then some (j, rest) else none
  | .null, rest, fuel, depth, h, hr, hfuel => (if_pos (Nat.zero_le _)).symm
  | .bool true, rest, fuel, depth, h, hr, hfuel => (if_pos (Nat.zero_le _)).symm
  | .bool false, rest, fuel, depth, h, hr, hfuel => (if_pos (Nat.zero_le _)).symm
  | .integer n, rest, fuel, depth, h, hr, hfuel => by
    obtain ⟨c, cs, hcs, hc⟩ := integer_start n.val
    have hread := number?_integer n hr
    rw [chars]
    rw [hcs] at hread ⊢
    exact ((value?_number hc _ _ _).trans hread).trans (if_pos (Nat.zero_le _)).symm
  | .decimal x, rest, fuel, depth, h, hr, hfuel => by
    obtain ⟨c, cs, hcs, hc⟩ := decimal_start x
    have hread := number?_decimal h hr
    rw [hcs] at hread ⊢
    exact ((value?_number hc _ _ _).trans hread).trans (if_pos (Nat.zero_le _)).symm
  | .text s, rest, fuel, depth, h, hr, hfuel => by
    have hlength := length_quoted s
    rw [chars] at hfuel ⊢
    exact (value?_text s (by omega)).trans (if_pos (Nat.zero_le _)).symm
  | .array [], rest, fuel, depth, h, hr, hfuel => by
    cases depth with
    | zero => rfl
    | succ depth => exact (if_pos (Nat.succ_le_succ (Nat.zero_le _))).symm
  | .array (j :: js), rest, fuel, depth, h, hr, hfuel => by
    obtain ⟨c, cs, hcs, hc⟩ := itemChars_start j js (']' :: rest)
    have hchars : chars (.array (j :: js)) ++ rest = '[' :: c :: cs := by
      rw [chars, ← hcs]
      simp
    rw [chars, List.length_append, List.length_cons, List.length_singleton] at hfuel
    rw [hchars]
    cases depth with
    | zero => rfl
    | succ depth =>
      rw [value?_items hc, ← hcs, items?_chars (j :: js) (List.cons_ne_nil j js) rest fuel
        depth h (by omega)]
      simp only [Json.depth, Nat.add_le_add_iff_right]
      split <;> rfl
  | .object [], rest, fuel, depth, h, hr, hfuel => by
    cases depth with
    | zero => rfl
    | succ depth => exact (if_pos (Nat.succ_le_succ (Nat.zero_le _))).symm
  | .object ((key, j) :: ms), rest, fuel, depth, h, hr, hfuel => by
    obtain ⟨cs, hcs⟩ := memberChars_start (key, j) ms ('\x7d' :: rest)
    have hchars : chars (.object ((key, j) :: ms)) ++ rest = '\x7b' :: '"' :: cs := by
      rw [chars, ← hcs]
      simp
    rw [chars, List.length_append, List.length_cons, List.length_singleton] at hfuel
    rw [hchars]
    cases depth with
    | zero => rfl
    | succ depth =>
      rw [value?_members, ← hcs, members?_chars ((key, j) :: ms) (List.cons_ne_nil _ ms) rest fuel
        depth h.2 (by omega)]
      simp only [Json.depth, Nat.add_le_add_iff_right]
      split
      · rw [Option.map_some, ofMembers, Entries.ofPairs_of_sorted h.1]
      · rfl

theorem items?_chars : ∀ (js : List Json), js ≠ [] → ∀ (rest : List Char) (fuel depth : Nat),
    ReadableItems js → 2 * (itemChars js).length + 1 ≤ fuel →
    items? fuel depth (itemChars js ++ ']' :: rest) =
      if depthItems js ≤ depth then some (js, rest) else none
  | [], hne, rest, fuel, depth, h, hfuel => absurd rfl hne
  | [j], hne, rest, fuel, depth, h, hfuel => by
    rw [itemChars] at hfuel ⊢
    have hpos := length_chars_pos j
    obtain ⟨fuel, rfl⟩ : ∃ n, fuel = n + 2 := ⟨fuel - 2, by omega⟩
    have hclose : Stops goesOn (']' :: rest) := Text.stops_cons.2 (by decide)
    have hskip : skipBlank (']' :: rest) = ']' :: rest := skipBlank_of_start (by decide)
    have hdepth : depthItems [j] = j.depth := by simp [depthItems]
    rw [items?_step, value?_chars j _ fuel depth h.1 hclose (by omega), hdepth]
    split
    · simp only [Option.bind_some, hskip]
    · rfl
  | j :: k :: js, hne, rest, fuel, depth, h, hfuel => by
    have hcons : itemChars (j :: k :: js) = chars j ++ ',' :: itemChars (k :: js) := by
      rw [itemChars]
      exact List.cons_ne_nil k js
    rw [hcons, List.length_append, List.length_cons] at hfuel
    have hpos := length_chars_pos j
    obtain ⟨fuel, rfl⟩ : ∃ n, fuel = n + 2 := ⟨fuel - 2, by omega⟩
    have hcomma : Stops goesOn (',' :: (itemChars (k :: js) ++ ']' :: rest)) :=
      Text.stops_cons.2 (by decide)
    have hskip : skipBlank (',' :: (itemChars (k :: js) ++ ']' :: rest)) =
        ',' :: (itemChars (k :: js) ++ ']' :: rest) := skipBlank_of_start (by decide)
    have hitem := value?_chars j _ fuel depth h.1 hcomma (by omega)
    have hitems := items?_chars (k :: js) (List.cons_ne_nil k js) rest (fuel + 1) depth h.2
      (by omega)
    have hdepth : depthItems (j :: k :: js) ≤ depth ↔
        j.depth ≤ depth ∧ depthItems (k :: js) ≤ depth := by
      rw [depthItems, Nat.max_le]
    rw [hcons, List.append_assoc, List.cons_append, items?_step, hitem]
    by_cases hj : j.depth ≤ depth
    · rw [if_pos hj, Option.bind_some]
      simp only [hskip, hitems, hdepth, hj, true_and]
      split <;> rfl
    · rw [if_neg hj, if_neg fun hall => hj (hdepth.1 hall).1]
      rfl

theorem members?_chars : ∀ (ms : List (String × Json)), ms ≠ [] →
    ∀ (rest : List Char) (fuel depth : Nat), ReadableMembers ms →
    2 * (memberChars ms).length + 1 ≤ fuel →
    members? fuel depth (memberChars ms ++ '\x7d' :: rest) =
      if depthMembers ms ≤ depth then some (ms, rest) else none
  | [], hne, rest, fuel, depth, h, hfuel => absurd rfl hne
  | [(key, j)], hne, rest, fuel, depth, h, hfuel => by
    have hkey := length_quoted key
    rw [memberChars, List.length_append, List.length_cons] at hfuel
    obtain ⟨fuel, rfl⟩ : ∃ n, fuel = n + 2 := ⟨fuel - 2, by omega⟩
    have hclose : Stops goesOn ('\x7d' :: rest) := Text.stops_cons.2 (by decide)
    have hskip : skipBlank ('\x7d' :: rest) = '\x7d' :: rest := skipBlank_of_start (by decide)
    have hdepth : depthMembers [(key, j)] = j.depth := by simp [depthMembers]
    rw [memberChars, List.append_assoc, List.cons_append, members?_step key (by omega),
      value?_chars j _ fuel depth h.1 hclose (by omega), hdepth]
    split
    · simp only [Option.bind_some, hskip]
    · rfl
  | (key, j) :: (other, k) :: ms, hne, rest, fuel, depth, h, hfuel => by
    have hcons : memberChars ((key, j) :: (other, k) :: ms) =
        quoted key ++ ':' :: (chars j ++ ',' :: memberChars ((other, k) :: ms)) := by
      rw [memberChars]
      · simp
      · exact List.cons_ne_nil _ ms
    have hkey := length_quoted key
    rw [hcons, List.length_append, List.length_cons, List.length_append, List.length_cons] at hfuel
    obtain ⟨fuel, rfl⟩ : ∃ n, fuel = n + 2 := ⟨fuel - 2, by omega⟩
    have hcomma : Stops goesOn (',' :: (memberChars ((other, k) :: ms) ++ '\x7d' :: rest)) :=
      Text.stops_cons.2 (by decide)
    have hskip : skipBlank (',' :: (memberChars ((other, k) :: ms) ++ '\x7d' :: rest)) =
        ',' :: (memberChars ((other, k) :: ms) ++ '\x7d' :: rest) := skipBlank_of_start (by decide)
    have hmember := value?_chars j _ fuel depth h.1 hcomma (by omega)
    have hmembers := members?_chars ((other, k) :: ms) (List.cons_ne_nil _ ms) rest (fuel + 1) depth
      h.2 (by omega)
    have hdepth : depthMembers ((key, j) :: (other, k) :: ms) ≤ depth ↔
        j.depth ≤ depth ∧ depthMembers ((other, k) :: ms) ≤ depth := by
      rw [depthMembers, Nat.max_le]
    rw [hcons, List.append_assoc, List.cons_append, List.append_assoc, List.cons_append,
      members?_step key (by omega), hmember]
    by_cases hj : j.depth ≤ depth
    · rw [if_pos hj, Option.bind_some]
      simp only [hskip, hmembers, hdepth, hj, true_and]
      split <;> rfl
    · rw [if_neg hj, if_neg fun hall => hj (hdepth.1 hall).1]
      rfl

end

end Reader

/-- The text of a document is read as the document, unless that is nested too deep. -/
theorem read?_compact {j : Json} (h : Readable j) :
    read? j.compact = if j.depth ≤ depthLimit then some j else none := by
  have hread := Reader.value?_chars j [] (2 * (chars j).length + 1) depthLimit h
    (Text.stops_nil _) (by omega)
  rw [List.append_nil] at hread
  rw [Reader.read?_eq, compact, String.toList_ofList, hread]
  split
  · rw [Option.bind_some]
    exact if_pos rfl
  · rfl

end Json
end Sieve
