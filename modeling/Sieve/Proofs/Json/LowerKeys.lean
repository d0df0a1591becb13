import Mathlib
import Sieve.Proofs.Json.Path
import Sieve.Proofs.Text.Lower

/-!
# Sieve.Proofs.Json.LowerKeys

Documents with their keys in lower case. A path that leads to a document leads, in lower case, to
the same document with its keys in lower case, as long as the keys taken meet no others:
`follow_lowerKeys`. Doing it twice changes nothing (`lowerKeys_lowerKeys`), and of keys that meet
the last one in order counts (`member?_lowerKeys`).
-/

namespace Sieve

namespace Entries

variable {α : Type} {key : String} {v : α}

theorem ofPairs_concat (pairs : List (String × α)) (p : String × α) :
    ofPairs (pairs ++ [p]) = (ofPairs pairs).insert p.1 p.2 := by
  rw [ofPairs, List.foldl_concat, ofPairs]

/-- Of pairs with one key the last counts. -/
theorem get?_ofPairs (key : String) (pairs : List (String × α)) :
    get? key (ofPairs pairs) = (pairs.filter fun p => p.1 == key).getLast?.map (·.2) := by
  induction pairs using List.reverseRecOn with
  | nil => rfl
  | append_singleton pairs p ih =>
    rw [ofPairs_concat, get?_insert, List.filter_append]
    by_cases hp : p.1 = key
    · simp [hp]
    · simp [hp, ih]

theorem mem_of_get? {entries : Entries α} (h : get? key entries = some v) : (key, v) ∈ entries := by
  induction entries with
  | nil => cases h
  | cons e rest ih =>
    obtain ⟨k, w⟩ := e
    rw [get?] at h
    split at h
    · next hk =>
      rw [← hk, Option.some.inj h]
      exact List.mem_cons_self ..
    · exact List.mem_cons_of_mem _ (ih h)

theorem mem_of_mem_ofPairs {pairs : List (String × α)} {e : String × α} (h : e ∈ ofPairs pairs) :
    e ∈ pairs := by
  induction pairs using List.reverseRecOn with
  | nil => cases h
  | append_singleton pairs p ih =>
    rw [ofPairs_concat] at h
    rcases mem_insert h with rfl | h
    · exact List.mem_append_right _ (List.mem_singleton_self _)
    · exact List.mem_append_left _ (ih h)

/-- The last of some entries in key order is the one with the greatest key. -/
theorem getLast?_filter_iff {entries : Entries α} (h : Sorted entries) (p : String × α → Bool)
    (e : String × α) :
    (entries.filter p).getLast? = some e ↔
      e ∈ entries ∧ p e = true ∧ ∀ other ∈ entries, p other = true → other.1 ≤ e.1 := by
  have hsorted : (entries.filter p).Pairwise fun a b => a.1 < b.1 := h.filter p
  constructor
  · intro hlast
    obtain ⟨before, hbefore⟩ := List.getLast?_eq_some_iff.1 hlast
    have hmem : e ∈ entries.filter p := hbefore ▸ by simp
    rw [List.mem_filter] at hmem
    refine ⟨hmem.1, hmem.2, fun other hother hp => ?_⟩
    have hin : other ∈ before ++ [e] := hbefore ▸ List.mem_filter.2 ⟨hother, hp⟩
    rw [hbefore, List.pairwise_append] at hsorted
    rcases List.mem_append.1 hin with hin | hin
    · exact le_of_lt (hsorted.2.2 other hin e (List.mem_singleton_self e))
    · rw [List.mem_singleton.1 hin]
  · rintro ⟨hmem, hp, hgreatest⟩
    have hin : e ∈ entries.filter p := List.mem_filter.2 ⟨hmem, hp⟩
    have hsome := List.getLast?_isSome.2 (List.ne_nil_of_mem hin)
    obtain ⟨last, hlast⟩ := Option.isSome_iff_exists.1 hsome
    obtain ⟨before, hbefore⟩ := List.getLast?_eq_some_iff.1 hlast
    rw [hbefore] at hin hsorted
    rcases List.mem_append.1 hin with hin | hin
    · have hlt := (List.pairwise_append.1 hsorted).2.2 e hin last (List.mem_singleton_self last)
      have hmem' : last ∈ entries.filter p := hbefore ▸ by simp
      obtain ⟨hlast', hp'⟩ := List.mem_filter.1 hmem'
      exact absurd (hgreatest last hlast' hp') (not_le_of_gt hlt)
    · rw [hlast, List.mem_singleton.1 hin]

end Entries

namespace Json

theorem lowerItems_eq_map (items : List Json) : lowerItems items = items.map lowerKeys := by
  induction items with
  | nil => rw [lowerItems, List.map_nil]
  | cons j items ih => rw [lowerItems, List.map_cons, ih]

theorem lowerMembers_eq_map (members : List (String × Json)) :
    lowerMembers members = members.map fun m => (Text.lower m.1, m.2.lowerKeys) := by
  induction members with
  | nil => rw [lowerMembers, List.map_nil]
  | cons m members ih =>
    obtain ⟨key, j⟩ := m
    rw [lowerMembers, List.map_cons, ih]

theorem lowerKeys_array (items : List Json) :
    (array items).lowerKeys = .array (items.map lowerKeys) := by
  rw [lowerKeys, lowerItems_eq_map]

theorem lowerKeys_of_atomic {j : Json} (h : j.isComposite = false) : j.lowerKeys = j := by
  cases j with
  | array items => cases h
  | object members => cases h
  | _ => rw [lowerKeys] <;> simp

/-- A member of an object in lower case is the last one, in the order before, whose key has that
lower case. -/
theorem member?_lowered (members : List (String × Json)) (name : String) :
    (object members).lowerKeys.member? name =
      ((members.filter fun m => Text.lower m.1 == name).getLast?).map fun m => m.2.lowerKeys := by
  rw [lowerKeys, ofMembers, member?, Entries.get?_ofPairs, lowerMembers_eq_map, List.filter_map,
    List.getLast?_map, Option.map_map]
  rfl

/-- Of members whose keys meet in lower case the one with the greatest key counts. -/
theorem member?_lowerKeys {members : List (String × Json)} (h : Entries.Sorted members)
    (name : String) (j : Json) :
    (object members).lowerKeys.member? name = some j ↔
      ∃ m ∈ members, Text.lower m.1 = name ∧
        (∀ other ∈ members, Text.lower other.1 = name → other.1 ≤ m.1) ∧ j = m.2.lowerKeys := by
  rw [member?_lowered, Option.map_eq_some_iff]
  simp only [Entries.getLast?_filter_iff h, beq_iff_eq]
  constructor
  · rintro ⟨m, ⟨hm, hname, hgreatest⟩, hj⟩
    exact ⟨m, hm, hname, hgreatest, hj.symm⟩
  · rintro ⟨m, hm, hname, hgreatest, hj⟩
    exact ⟨m, ⟨hm, hname, hgreatest⟩, hj.symm⟩

/-- Entries that are in lower case already are the members in lower case. -/
theorem lowerKeys_ofMembers {members : List (String × Json)}
    (h : ∀ m ∈ members, Text.lower m.1 = m.1 ∧ m.2.lowerKeys = m.2) :
    (ofMembers members).lowerKeys = ofMembers members := by
  have hsame : lowerMembers (Entries.ofPairs members) = Entries.ofPairs members := by
    rw [lowerMembers_eq_map]
    refine (List.map_congr_left fun m hm => ?_).trans (List.map_id' _)
    obtain ⟨hkey, hvalue⟩ := h m (Entries.mem_of_mem_ofPairs hm)
    rw [hkey, hvalue]
  rw [ofMembers, lowerKeys, hsame, ofMembers,
    Entries.ofPairs_of_sorted (Entries.sorted_ofPairs members)]

mutual

theorem lowerKeys_lowerKeys : ∀ j : Json, j.lowerKeys.lowerKeys = j.lowerKeys
  | .null | .bool _ | .integer _ | .decimal _ | .text _ => by simp [lowerKeys]
  | .array items => by rw [lowerKeys, lowerKeys, lowerItems_lowerItems items]
  | .object members => by
    rw [lowerKeys]
    exact lowerKeys_ofMembers (lowerMembers_settled members)

theorem lowerItems_lowerItems : ∀ items : List Json,
    lowerItems (lowerItems items) = lowerItems items
  | [] => by rw [lowerItems, lowerItems]
  | j :: js => by
    rw [lowerItems, lowerItems, lowerKeys_lowerKeys j, lowerItems_lowerItems js]

theorem lowerMembers_settled : ∀ members : List (String × Json),
    ∀ m ∈ lowerMembers members, Text.lower m.1 = m.1 ∧ m.2.lowerKeys = m.2
  | [], m, hm => by
    rw [lowerMembers] at hm
    cases hm
  | (key, j) :: ms, m, hm => by
    rw [lowerMembers] at hm
    rcases List.mem_cons.1 hm with rfl | hm
    · exact ⟨Text.lower_lower key, lowerKeys_lowerKeys j⟩
    · exact lowerMembers_settled ms m hm

end

/-! ## Paths -/

/-- A path leads through objects to a document, and no other member of an object on the way has a
key of the same lower case as the one taken. -/
inductive Leads : List String → Json → Json → Prop where
  | here (x : Json) : Leads [] x x
  | member {key : String} {rest : List String} {members : List (String × Json)} {inner x : Json}
    (taken : Entries.get? key members = some inner)
    (alone : ∀ m ∈ members, Text.lower m.1 = Text.lower key → m = (key, inner))
    (onward : Leads rest inner x) : Leads (key :: rest) (.object members) x

namespace Leads

variable {path : List String} {j x : Json} (h : Leads path j x)

include h

theorem followed : j.follow path = some x := by
  induction h with
  | here x => rfl
  | member taken _ _ ih => rw [follow, member?, taken, Option.bind_some, ih]

theorem noArrayOn : j.NoArrayOn path := by
  induction h with
  | here x => trivial
  | member taken _ _ ih =>
    intro inner hinner
    rw [member?, taken, Option.some.injEq] at hinner
    exact hinner ▸ ih

end Leads

theorem member?_of_alone {key : String} {members : List (String × Json)} {inner : Json}
    (taken : Entries.get? key members = some inner)
    (alone : ∀ m ∈ members, Text.lower m.1 = Text.lower key → m = (key, inner)) :
    (object members).lowerKeys.member? (Text.lower key) = some inner.lowerKeys := by
  have hin : (key, inner) ∈ members.filter fun m => Text.lower m.1 == Text.lower key :=
    List.mem_filter.2 ⟨Entries.mem_of_get? taken, beq_self_eq_true _⟩
  have hsome := List.getLast?_isSome.2 (List.ne_nil_of_mem hin)
  obtain ⟨last, hlast⟩ := Option.isSome_iff_exists.1 hsome
  obtain ⟨hmem, hname⟩ := List.mem_filter.1 (List.mem_of_getLast? hlast)
  rw [member?_lowered, hlast, alone last hmem (beq_iff_eq.1 hname), Option.map_some]

/-- A path in lower case leads to the same document with its keys in lower case. -/
theorem follow_lowerKeys {path : List String} {j x : Json} (h : Leads path j x) :
    j.lowerKeys.follow (path.map Text.lower) = some x.lowerKeys := by
  induction h with
  | here x => rfl
  | @member key rest members inner x taken alone _ ih =>
    rw [List.map_cons, follow, member?_of_alone taken alone, Option.bind_some, ih]

end Json
end Sieve
