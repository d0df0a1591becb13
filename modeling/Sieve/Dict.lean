/-!
# Sieve.Dict

Maps from texts, kept as lists of entries in key order. Texts are ordered by code point, which is
the order of their bytes.

* `Entries.insert`, `Entries.get?`: the operations on plain lists; `Entries.get?_insert`.
* `Dict`: a list of entries with its order; `Dict.ext`: two maps with the same look-ups are equal.
* `Entries.ofPairs_of_sorted`: entries in key order are the map that they make.
* `Dict.get?_merge`: what a merged map answers.
-/

namespace Sieve

abbrev Entries (α : Type u) := List (String × α)

namespace Entries

/-- The value of the first entry with the key. -/
def get? (key : String) : Entries α → Option α
  | [] => none
  | (k, v) :: rest => if k = key then some v else get? key rest

/-- Sets the value of a key, in key order. -/
def insert (key : String) (value : α) : Entries α → Entries α
  | [] => [(key, value)]
  | (k, v) :: rest =>
    if k = key then (key, value) :: rest
    else if key < k then (key, value) :: (k, v) :: rest
    else (k, v) :: insert key value rest

/-- The entries of a list of pairs in any order; of equal keys the last pair counts. -/
def ofPairs (pairs : List (String × α)) : Entries α :=
  pairs.foldl (fun entries p => entries.insert p.1 p.2) []

def Sorted (entries : Entries α) : Prop := entries.Pairwise fun a b => a.1 < b.1

theorem get?_insert (key other : String) (value : α) (entries : Entries α) :
    get? other (insert key value entries) =
      if key = other then some value else get? other entries := by
  induction entries with
  | nil => simp [insert, get?]
  | cons e rest ih =>
    obtain ⟨k, v⟩ := e
    rw [insert]
    split
    · rename_i h; subst h; simp only [get?]; split <;> rfl
    · rename_i hne
      split
      · simp only [get?]
      · simp only [get?, ih]
        by_cases hk : k = other
        · subst hk; simp [Ne.symm hne]
        · simp [hk]

theorem mem_insert {key : String} {value : α} {entries : Entries α} {e : String × α}
    (h : e ∈ insert key value entries) : e = (key, value) ∨ e ∈ entries := by
  induction entries with
  | nil => simpa [insert] using h
  | cons a rest ih =>
    obtain ⟨k, v⟩ := a
    rw [insert] at h
    split at h
    · rcases List.mem_cons.1 h with rfl | h
      · exact .inl rfl
      · exact .inr (List.mem_cons_of_mem _ h)
    · split at h
      · rcases List.mem_cons.1 h with rfl | h
        · exact .inl rfl
        · exact .inr h
      · rcases List.mem_cons.1 h with rfl | h
        · exact .inr (List.mem_cons_self ..)
        · exact (ih h).imp_right (List.mem_cons_of_mem _)

theorem lt_of_ne_of_not_lt {a b : String} (hne : a ≠ b) (hn : ¬ b < a) : a < b := by
  refine Classical.byContradiction fun h => hne ?_
  exact String.le_antisymm (String.not_lt.1 hn) (String.not_lt.1 h)

theorem sorted_insert (key : String) (value : α) {entries : Entries α} (h : Sorted entries) :
    Sorted (insert key value entries) := by
  induction entries with
  | nil => simp [insert, Sorted]
  | cons e rest ih =>
    obtain ⟨k, v⟩ := e
    obtain ⟨hlt, hrest⟩ := List.pairwise_cons.1 h
    rw [insert]
    split
    · rename_i hk; subst hk; exact List.pairwise_cons.2 ⟨hlt, hrest⟩
    · rename_i hk
      split
      · rename_i hlt'
        refine List.pairwise_cons.2 ⟨fun e he => ?_, h⟩
        rcases List.mem_cons.1 he with rfl | he
        · exact hlt'
        · exact String.lt_trans hlt' (hlt e he)
      · rename_i hn
        refine List.pairwise_cons.2 ⟨fun e he => ?_, ih hrest⟩
        rcases mem_insert he with rfl | he
        · exact lt_of_ne_of_not_lt hk hn
        · exact hlt e he

theorem sorted_foldl_insert {β : Type v} (f : Entries α → β → String × α) (l : List β)
    {entries : Entries α} (h : Sorted entries) :
    Sorted (l.foldl (fun acc b => acc.insert (f acc b).1 (f acc b).2) entries) := by
  induction l generalizing entries with
  | nil => exact h
  | cons b l ih => exact ih (sorted_insert _ _ h)

theorem sorted_ofPairs (pairs : List (String × α)) : Sorted (ofPairs pairs) :=
  sorted_foldl_insert (fun _ p => p) pairs .nil

theorem get?_eq_none_of_lt {key : String} {entries : Entries α} (h : ∀ e ∈ entries, key < e.1) :
    get? key entries = none := by
  induction entries with
  | nil => rfl
  | cons e rest ih =>
    obtain ⟨k, v⟩ := e
    have hk : k ≠ key := fun hk => String.lt_irrefl key (hk ▸ h _ (List.mem_cons_self ..))
    simp only [get?, hk, if_false]
    exact ih fun e he => h e (List.mem_cons_of_mem _ he)

theorem get?_cons_self (k : String) (v : α) (rest : Entries α) :
    get? k ((k, v) :: rest) = some v := by
  simp [get?]

theorem sorted_ext {a b : Entries α} (ha : Sorted a) (hb : Sorted b)
    (h : ∀ key, get? key a = get? key b) : a = b := by
  induction a generalizing b with
  | nil =>
    cases b with
    | nil => rfl
    | cons e rest => exact absurd (h e.1) (by simp [get?])
  | cons e rest ih =>
    obtain ⟨k, v⟩ := e
    obtain ⟨hk, hrest⟩ := List.pairwise_cons.1 ha
    cases b with
    | nil => exact absurd (h k) (by simp [get?])
    | cons e' rest' =>
      obtain ⟨k', v'⟩ := e'
      obtain ⟨hk', hrest'⟩ := List.pairwise_cons.1 hb
      have hkk : k = k' := by
        refine Classical.byContradiction fun hne => ?_
        by_cases hlt : k < k'
        · have hnone := h k
          rw [get?_cons_self, get?_eq_none_of_lt] at hnone
          · exact absurd hnone (by simp)
          · intro e he
            rcases List.mem_cons.1 he with rfl | he
            · exact hlt
            · exact String.lt_trans hlt (hk' e he)
        · have hgt := lt_of_ne_of_not_lt (Ne.symm hne) hlt
          have hnone := h k'
          rw [get?_cons_self, get?_eq_none_of_lt] at hnone
          · exact absurd hnone (by simp)
          · intro e he
            rcases List.mem_cons.1 he with rfl | he
            · exact hgt
            · exact String.lt_trans hgt (hk e he)
      subst hkk
      have hv : v = v' := by simpa [get?] using h k
      subst hv
      have : rest = rest' := ih hrest hrest' fun key => by
        by_cases hkey : k = key
        · subst hkey
          rw [get?_eq_none_of_lt hk, get?_eq_none_of_lt hk']
        · simpa [get?, hkey] using h key
      rw [this]

theorem get?_foldl_insert (entries acc : Entries α) (h : Sorted entries) (key : String) :
    get? key (entries.foldl (fun es e => es.insert e.1 e.2) acc) =
      (get? key entries).or (get? key acc) := by
  induction entries generalizing acc with
  | nil => rfl
  | cons e entries ih =>
    obtain ⟨hlt, hsorted⟩ := List.pairwise_cons.1 h
    rw [List.foldl_cons, ih _ hsorted, get?_insert, get?]
    split
    · rename_i heq
      rw [← heq, get?_eq_none_of_lt hlt]
      rfl
    · rfl

/-- Entries in key order are those of the map that they make. -/
theorem ofPairs_of_sorted {entries : Entries α} (h : Sorted entries) :
    ofPairs entries = entries := by
  refine sorted_ext (sorted_ofPairs entries) h fun key => ?_
  rw [ofPairs, get?_foldl_insert entries [] h]
  exact Option.or_none

end Entries

structure Dict (α : Type u) where
  entries : Entries α
  sorted : entries.Sorted

namespace Dict

def empty : Dict α := ⟨[], .nil⟩

instance : Inhabited (Dict α) := ⟨empty⟩

def get? (d : Dict α) (key : String) : Option α := Entries.get? key d.entries

def insert (d : Dict α) (key : String) (value : α) : Dict α :=
  ⟨d.entries.insert key value, Entries.sorted_insert key value d.sorted⟩

/-- A map from pairs in any order; of equal keys the last pair counts. -/
def ofPairs (pairs : List (String × α)) : Dict α := ⟨.ofPairs pairs, Entries.sorted_ofPairs pairs⟩

def size (d : Dict α) : Nat := d.entries.length

/-- Every entry of `overlay` is put over `base`; where both have a key, `join` decides. -/
def merge (join : α → α → α) (base overlay : Dict α) : Dict α :=
  overlay.entries.foldl
    (fun d e => d.insert e.1 (match d.get? e.1 with | some old => join old e.2 | none => e.2)) base

theorem ext {a b : Dict α} (h : ∀ key, a.get? key = b.get? key) : a = b := by
  have := Entries.sorted_ext a.sorted b.sorted h
  cases a; cases b; cases this; rfl

theorem get?_insert (d : Dict α) (key other : String) (value : α) :
    (d.insert key value).get? other = if key = other then some value else d.get? other :=
  Entries.get?_insert key other value d.entries

/-- What a merge does at one key. -/
def joined (join : α → α → α) : Option α → Option α → Option α
  | some old, some new => some (join old new)
  | none, new => new
  | old, none => old

theorem joined_eq_merge (join : α → α → α) (old new : Option α) :
    joined join old new = Option.merge join old new := by
  cases old <;> cases new <;> rfl

theorem get?_merge (join : α → α → α) (base overlay : Dict α) (key : String) :
    (base.merge join overlay).get? key = joined join (base.get? key) (overlay.get? key) := by
  obtain ⟨entries, sorted⟩ := overlay
  simp only [merge, get?]
  induction entries generalizing base with
  | nil => cases h : Entries.get? key base.entries <;> simp [joined, Entries.get?, h]
  | cons e rest ih =>
    obtain ⟨k, v⟩ := e
    obtain ⟨hk, hrest⟩ := List.pairwise_cons.1 sorted
    rw [List.foldl_cons, ih _ hrest]
    have hins := get?_insert base k key
    simp only [get?] at hins
    rw [hins]
    by_cases hkey : k = key
    · subst hkey
      rw [Entries.get?_eq_none_of_lt hk, Entries.get?_cons_self]
      cases h : Entries.get? k base.entries <;> simp [joined]
    · simp [Entries.get?, hkey]

end Dict

end Sieve
