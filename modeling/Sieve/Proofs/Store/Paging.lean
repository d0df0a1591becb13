import Mathlib
import Sieve.Proofs.Store.Queries
import Sieve.Settings.Catalog

/-!
# Sieve.Proofs.Store.Paging

Going through a long result page by page, as long as rows come after the last page.

* `Turns`: the pages that are fetched, one request after the other.
* `exists_turns`: requests of a limit that the store leaves alone come to all rows.
* `Finds.turns_iff`: when the requests that follow a first one do.
* `pages_divide`: pages by number divide the rows among them.
-/

namespace Sieve

open Sql

/-! ## Page after page -/

section Turns

variable {ρ σ α : Type}

/-- Pages are fetched one after the other, as long as rows come after the last one. -/
inductive Turns (fetch : ρ → Except StoreError (Page α)) (next : ρ → ρ) :
    ρ → List (Page α) → Prop where
  | last {r : ρ} {page : Page α} (fetched : fetch r = .ok page) (all : page.hasMore = false) :
    Turns fetch next r [page]
  | more {r : ρ} {page : Page α} {pages : List (Page α)} (fetched : fetch r = .ok page)
    (more : page.hasMore = true) (rest : Turns fetch next (next r) pages) :
    Turns fetch next r (page :: pages)

variable {fetch : ρ → Except StoreError (Page α)} {next : ρ → ρ}

/-- Requests may be given by labels if the label that follows stands for the request that
follows. -/
theorem Turns.relabel {label : σ → ρ} {next' : σ → σ} {x : σ} {pages : List (Page α)}
    (hnext : ∀ x page, fetch (label x) = .ok page → page.hasMore = true →
      label (next' x) = next (label x))
    (h : Turns fetch next (label x) pages) : Turns (fun x => fetch (label x)) next' x pages := by
  generalize hr : label x = r at h
  induction h generalizing x with
  | last fetched all =>
    subst hr
    exact .last fetched all
  | more fetched more rest ih =>
    subst hr
    exact .more fetched more (ih (hnext x _ fetched more))

/-- A request that is followed by itself is never done with. -/
theorem Turns.not_of_fixed {r : ρ} {page : Page α} {pages : List (Page α)}
    (hfetch : fetch r = .ok page) (hmore : page.hasMore = true) (hfixed : next r = r) :
    ¬ Turns fetch next r pages := by
  intro h
  induction h with
  | last fetched all =>
    rw [hfetch] at fetched
    cases fetched
    rw [hmore] at all
    cases all
  | more fetched more rest ih =>
    rw [hfixed] at ih
    exact ih hfetch hfixed

end Turns

/-! ## Parts of a list of rows -/

section Windows

variable {α : Type} {rows : List α} {fetch : PageRequest → Except StoreError (Page α)}
  {limit size : UInt64} {pages : List (Page α)}

theorem Page.length_window (rows : List α) (offset limit : UInt64) :
    (Page.window rows ⟨offset, limit⟩).items.length =
      min limit.toNat (rows.length - offset.toNat) := by
  rw [Page.window, List.length_take, List.length_drop]

theorem Page.total_window (hrows : rows.length < 2 ^ 63) (r : PageRequest) :
    (Page.window rows r).total.toInt = rows.length := Int64.toInt_ofNat_of_lt hrows

theorem Page.hasMore_window (hrows : rows.length < 2 ^ 63) (hlimit : 0 < limit.toNat)
    (offset : UInt64) :
    (Page.window rows ⟨offset, limit⟩).hasMore = true ↔
      offset.toNat + limit.toNat < rows.length := by
  have hlength := length_window rows offset limit
  have hseen := Saturating.toNat_add offset
    (Saturating.ofNat (Page.window rows ⟨offset, limit⟩).items.length)
  rw [Saturating.toNat_ofNat, Saturating.greatest] at hseen
  have hoffset : (Page.window rows ⟨offset, limit⟩).offset = offset := rfl
  simp only [Page.hasMore, decide_eq_true_eq, total_window hrows, hoffset, hseen]
  omega

/-- Requests each of which starts where the one before ends come to all rows. -/
theorem exists_turns (hrows : rows.length < 2 ^ 63) (hlimit : 0 < limit.toNat)
    (hfetch : ∀ offset, fetch ⟨offset, limit⟩ = .ok (.window rows ⟨offset, limit⟩))
    (offset : UInt64) :
    ∃ pages, Turns fetch PageRequest.next ⟨offset, limit⟩ pages ∧
      pages.flatMap Page.items = rows.drop offset.toNat := by
  -- By induction on the number of rows that are left.
  induction hleft : rows.length - offset.toNat using Nat.strongRecOn generalizing offset with
  | ind left ih =>
    by_cases hmore : (Page.window rows ⟨offset, limit⟩).hasMore = true
    · have hlt := (Page.hasMore_window hrows hlimit offset).1 hmore
      have hoffset : (Saturating.add offset limit).toNat = offset.toNat + limit.toNat := by
        rw [Saturating.toNat_add, Saturating.greatest]
        omega
      obtain ⟨pages, hturns, hitems⟩ := ih _ (by omega) (Saturating.add offset limit) rfl
      refine ⟨_ :: pages, .more (hfetch offset) hmore hturns, ?_⟩
      rw [List.flatMap_cons, hitems, hoffset, ← List.drop_drop]
      exact List.take_append_drop _ _
    · refine ⟨[_], .last (hfetch offset) (Bool.eq_false_iff.2 hmore), ?_⟩
      rw [Page.hasMore_window hrows hlimit] at hmore
      have hfits : (rows.drop offset.toNat).length ≤ limit.toNat := by
        rw [List.length_drop]
        omega
      rw [List.flatMap_singleton]
      exact List.take_of_length_le hfits

/-- Requests that go on by at least as many rows as come on a page never come to a row twice. -/
theorem Turns.length_le (hlimit : size.toNat ≤ limit.toNat)
    (hfetch : ∀ offset, fetch ⟨offset, limit⟩ = .ok (.window rows ⟨offset, size⟩))
    (hrows : rows.length < 2 ^ 63) {offset : UInt64}
    (h : Turns fetch PageRequest.next ⟨offset, limit⟩ pages) :
    (pages.flatMap Page.items).length ≤ rows.length - offset.toNat := by
  generalize hr : PageRequest.mk offset limit = r at h
  induction h generalizing offset with
  | last fetched all =>
    subst hr
    rw [hfetch] at fetched
    cases fetched
    rw [List.flatMap_singleton, Page.length_window]
    exact Nat.min_le_right _ _
  | more fetched more rest ih =>
    subst hr
    rw [hfetch] at fetched
    cases fetched
    have hrest : _ ≤ rows.length - (Saturating.add offset limit).toNat := ih rfl
    have hoffset := Saturating.toNat_add offset limit
    rw [Saturating.greatest] at hoffset
    rw [List.flatMap_cons, List.length_append, Page.length_window]
    omega

/-- If they go on by more, they miss the rows after the first page. -/
theorem Turns.length_lt (hlimit : size.toNat < limit.toNat)
    (hfetch : ∀ offset, fetch ⟨offset, limit⟩ = .ok (.window rows ⟨offset, size⟩))
    (hrows : rows.length < 2 ^ 63) (hmore : size.toNat < rows.length)
    (h : Turns fetch PageRequest.next (.first limit) pages) :
    (pages.flatMap Page.items).length < rows.length := by
  have hlength := Page.length_window rows 0 size
  rw [UInt64.toNat_zero] at hlength
  cases h with
  | last fetched all =>
    rw [PageRequest.first, hfetch] at fetched
    cases fetched
    rw [List.flatMap_singleton, hlength]
    omega
  | more fetched more rest =>
    rw [PageRequest.first, hfetch] at fetched
    cases fetched
    have hrest : _ ≤ rows.length - (Saturating.add 0 limit).toNat :=
      Turns.length_le hlimit.le hfetch hrows rest
    have hoffset := Saturating.toNat_add 0 limit
    rw [Saturating.greatest, UInt64.toNat_zero] at hoffset
    rw [List.flatMap_cons, List.length_append, hlength]
    omega

end Windows

/-! ## The request that follows -/

section Following

variable {α : Type} {s : Store α} {db : Database} {t : Rows} {p : Option Predicate}
  {found : Entries Stored} {rows : List α}

/-- The requests that follow a first one come to every row once and in order if its limit is within
the bounds of the store, or if all rows are on the first page, and in no other case: they go on by
the limit as it is, while the store returns as many rows as the limit within its bounds says. -/
theorem Store.Finds.turns_iff (h : s.Finds db t p found rows) (limit : UInt64) :
    (∃ pages, Turns (s.fetch db t p) PageRequest.next (.first limit) pages ∧
        pages.flatMap Page.items = rows) ↔
      PageRequest.clampLimit s.maxPageSize limit = limit ∨
        rows.length ≤ (PageRequest.clampLimit s.maxPageSize limit).toNat := by
  set size := PageRequest.clampLimit s.maxPageSize limit with hsize
  have hpos : 0 < size.toNat := PageRequest.clampLimit_pos s.maxPageSize limit
  have hfetch : ∀ offset, s.fetch db t p ⟨offset, limit⟩ = .ok (.window rows ⟨offset, size⟩) :=
    fun offset => h.fetch_eq ⟨offset, limit⟩
  have hmore := Page.hasMore_window h.length_lt hpos 0
  rw [UInt64.toNat_zero, Nat.zero_add] at hmore
  constructor
  · rintro ⟨pages, hturns, hitems⟩
    by_contra hboth
    rw [not_or, not_le] at hboth
    obtain ⟨hne, hlt⟩ := hboth
    have htoNat := PageRequest.toNat_clampLimit s.maxPageSize limit
    rw [← hsize] at htoNat
    by_cases hle : size.toNat ≤ limit.toNat
    · have hmissed : size.toNat < limit.toNat :=
        lt_of_le_of_ne hle fun heq => hne (UInt64.toNat_inj.1 heq)
      exact (hturns.length_lt hmissed hfetch h.length_lt hlt).ne (congrArg List.length hitems)
    · have hzero : limit = 0 := UInt64.toNat_inj.1 (by rw [UInt64.toNat_zero]; omega)
      subst hzero
      exact Turns.not_of_fixed (hfetch 0) (hmore.2 hlt) rfl hturns
  · rintro (hfixed | hall)
    · rw [hfixed] at hfetch hpos
      exact exists_turns h.length_lt hpos hfetch 0
    · have hlast : (Page.window rows ⟨0, size⟩).hasMore = false :=
        Bool.eq_false_iff.2 fun hfirst => absurd (hmore.1 hfirst) (not_lt.2 hall)
      refine ⟨[_], .last (hfetch 0) hlast, ?_⟩
      rw [List.flatMap_singleton]
      exact List.take_of_length_le hall

end Following

namespace Shelf

def documents : Store Json := .documents "sites" .empty 2

def database : Database where
  engine := ⟨compare, fun _ => 0, fun _ => "", fun _ _ => false⟩
  present _ id _ := ⟨some (.text id)⟩
  duplicate id := "duplicate key: " ++ id

def row (floor : Int64) : Stored := ⟨1, fun _ => .int floor⟩

def table : Rows :=
  ⟨[("a", row 1), ("b", row 2), ("c", row 3), ("d", row 4)], by
    unfold Entries.Sorted
    decide +kernel⟩

/-- The condition `floor > 1`. -/
def upper : Predicate := .leaf ⟨⟨"floor", by decide +kernel⟩, .comparison .gt ⟨.int 1, rfl⟩⟩

def found : Entries Stored := [("b", row 2), ("c", row 3), ("d", row 4)]

theorem inOrder_found : database.inOrder found = found := by
  refine List.mergeSort_of_pairwise ?_
  decide +kernel

theorem finds :
    documents.Finds database table (some upper) found [.text "b", .text "c", .text "d"] where
  matching := rfl
  read := by
    rw [inOrder_found]
    rfl
  countable := by decide

end Shelf

/-- With two rows on a page at most, requests of two rows come to all three, requests of three do
not. -/
theorem turns_iff_shelf :
    (∃ pages, Turns (Shelf.documents.fetch Shelf.database Shelf.table (some Shelf.upper))
        PageRequest.next (.first 2) pages ∧
        pages.flatMap Page.items = [.text "b", .text "c", .text "d"]) ∧
      ¬ ∃ pages, Turns (Shelf.documents.fetch Shelf.database Shelf.table (some Shelf.upper))
        PageRequest.next (.first 3) pages ∧
        pages.flatMap Page.items = [.text "b", .text "c", .text "d"] := by
  rw [Shelf.finds.turns_iff 2, Shelf.finds.turns_iff 3]
  decide

/-- Requests of no rows ask for the first one for ever. -/
theorem first_page_repeats :
    ¬ ∃ pages, Turns (Shelf.documents.fetch Shelf.database Shelf.table (some Shelf.upper))
      PageRequest.next (.first 0) pages := by
  rintro ⟨pages, hturns⟩
  have hfetch := Shelf.finds.fetch_eq (.first 0)
  exact Turns.not_of_fixed hfetch (by decide) rfl hturns

/-! ## Pages by number -/

section Numbered

variable {α : Type} {rows : List α} {size : UInt64}

/-- The rows on the page with a number, counted from zero, if `size` rows are on a page. -/
def pageOf (rows : List α) (size number : Nat) : List α := (rows.drop (number * size)).take size

theorem pageOf_ne_nil {size : Nat} (hsize : 0 < size) (number : Nat) :
    pageOf rows size number ≠ [] ↔ number * size < rows.length := by
  rw [pageOf, ← List.length_pos_iff, List.length_take, List.length_drop]
  omega

/-- Pages by number: each has its rows and says whether the one that follows has any, and one after
the other they come to all rows. -/
structure Divides (fetch : UInt64 → Except StoreError (Page α)) (rows : List α) (size : Nat) :
    Prop where
  page (number : UInt64) : ∃ page, fetch number = .ok page ∧
    page.items = pageOf rows size number.toNat ∧ page.total.toInt = rows.length ∧
    (page.hasMore = true ↔ pageOf rows size (number.toNat + 1) ≠ [])
  turns : ∃ pages, Turns fetch (· + 1) 0 pages ∧ pages.flatMap Page.items = rows

theorem items_numbered (hrows : rows.length < 2 ^ 63) (number size : UInt64) :
    (Page.window rows (.numbered number size)).items = pageOf rows size.toNat number.toNat := by
  have hmul := Saturating.toNat_mul number size
  rw [Saturating.greatest] at hmul
  rw [Page.window, PageRequest.numbered, pageOf, hmul, drop_min (by omega)]

theorem hasMore_numbered (hrows : rows.length < 2 ^ 63) (hsize : 0 < size.toNat)
    (number : UInt64) :
    (Page.window rows (.numbered number size)).hasMore = true ↔
      pageOf rows size.toNat (number.toNat + 1) ≠ [] := by
  have hmul := Saturating.toNat_mul number size
  rw [Saturating.greatest] at hmul
  rw [PageRequest.numbered, Page.hasMore_window hrows hsize, pageOf_ne_nil hsize, hmul,
    Nat.succ_mul]
  omega

/-- The number that follows stands for the request that follows, if that comes to rows. -/
theorem numbered_succ (hrows : rows.length < 2 ^ 63) (hsize : 0 < size.toNat) {number : UInt64}
    (hmore : (Page.window rows (.numbered number size)).hasMore = true) :
    PageRequest.numbered (number + 1) size = (PageRequest.numbered number size).next := by
  have hlt := (pageOf_ne_nil hsize _).1 ((hasMore_numbered hrows hsize number).1 hmore)
  rw [Nat.succ_mul] at hlt
  have hle : number.toNat ≤ number.toNat * size.toNat := Nat.le_mul_of_pos_right _ hsize
  have hnumber : (number + 1).toNat = number.toNat + 1 := by
    rw [UInt64.toNat_add, UInt64.toNat_one]
    exact Nat.mod_eq_of_lt (by omega)
  have hoffset : Saturating.mul (number + 1) size =
      Saturating.add (Saturating.mul number size) size := by
    rw [← UInt64.toNat_inj, Saturating.toNat_mul, Saturating.toNat_add, Saturating.toNat_mul,
      hnumber, Nat.succ_mul, Saturating.greatest]
    omega
  rw [PageRequest.numbered, hoffset]
  rfl

theorem Store.Finds.divides {s : Store α} {db : Database} {t : Rows} {p : Option Predicate}
    {found : Entries Stored} (h : s.Finds db t p found rows)
    (hsize : PageRequest.clampLimit s.maxPageSize size = size) :
    Divides (fun number => s.fetch db t p (.numbered number size)) rows size.toNat := by
  have hpos : 0 < size.toNat := hsize ▸ PageRequest.clampLimit_pos s.maxPageSize size
  have hfetch : ∀ offset, s.fetch db t p ⟨offset, size⟩ = .ok (.window rows ⟨offset, size⟩) := by
    intro offset
    rw [h.fetch_eq, PageRequest.clamped, hsize]
  refine ⟨fun number => ⟨_, hfetch _, items_numbered h.length_lt number size,
    Page.total_window h.length_lt _, hasMore_numbered h.length_lt hpos number⟩, ?_⟩
  obtain ⟨pages, hturns, hitems⟩ := exists_turns h.length_lt hpos hfetch 0
  have hzero : PageRequest.numbered 0 size = ⟨0, size⟩ := by
    rw [PageRequest.numbered, Saturating.mul, UInt64.toNat_zero, Nat.zero_mul]
    rfl
  refine ⟨pages, Turns.relabel (fun number page hpage hmore => ?_) (hzero ▸ hturns), hitems⟩
  rw [PageRequest.numbered, hfetch] at hpage
  cases hpage
  exact numbered_succ h.length_lt hpos hmore

end Numbered

theorem maxPageSize_documentStore {settings : StoreSettings} {q : QuerySettings}
    {documents : Store Json} (h : settings.documentStore q = .ok documents) :
    documents.maxPageSize = q.maxPageSize := by
  unfold StoreSettings.documentStore at h
  cases hcatalog : settings.catalog with
  | error e =>
    rw [hcatalog] at h
    cases h
  | ok catalog =>
    rw [hcatalog] at h
    cases h
    rfl

/-- The pages that are asked for by number divide the rows among them. Their size is the same for
all numbers and within bounds, and the store leaves it alone. -/
theorem StoreSettings.pages_divide {settings : StoreSettings} {q : QuerySettings}
    {documents : Store Json} (hstore : settings.documentStore q = .ok documents)
    {db : Database} {t : Rows} {p : Option Predicate} {found : Entries Stored} {rows : List Json}
    (h : documents.Finds db t p found rows) (limit : Option UInt64) :
    ∃ size : UInt64, (∀ number, (q.page number limit).limit = size) ∧
      1 ≤ size ∧ size ≤ max q.maxPageSize 1 ∧
      PageRequest.clampLimit documents.maxPageSize size = size ∧
      Divides (fun number => documents.fetch db t p (q.page number limit)) rows size.toNat := by
  have hmax := maxPageSize_documentStore hstore
  refine ⟨PageRequest.clampLimit q.maxPageSize (limit.getD q.defaultPageSize), fun _ => rfl, ?_,
    ?_, ?_, h.divides ?_⟩
  · rw [UInt64.le_iff_toNat_le]
    exact PageRequest.clampLimit_pos _ _
  · rw [UInt64.le_iff_toNat_le, UInt64.toNat_max, max_comm]
    exact PageRequest.clampLimit_le _ _
  · rw [hmax, PageRequest.clampLimit_clampLimit]
  · rw [hmax, PageRequest.clampLimit_clampLimit]

/-- Pages of seven rows, of which two are allowed. -/
theorem pages_divide_shelf :
    let q : QuerySettings := ⟨1, 2⟩
    (⟨"sites", .empty, .empty⟩ : StoreSettings).documentStore q = .ok Shelf.documents ∧
      Divides (fun number => Shelf.documents.fetch Shelf.database Shelf.table (some Shelf.upper)
        (q.page number (some 7))) [.text "b", .text "c", .text "d"] 2 := by
  intro q
  have hstore : (⟨"sites", .empty, .empty⟩ : StoreSettings).documentStore q =
      .ok Shelf.documents := rfl
  obtain ⟨size, hlimit, -, -, -, hdivides⟩ :=
    StoreSettings.pages_divide hstore Shelf.finds (some 7)
  have hsize : size = 2 := (hlimit 0).symm
  rw [hsize] at hdivides
  exact ⟨hstore, hdivides⟩

end Sieve
