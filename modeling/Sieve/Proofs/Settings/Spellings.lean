import Sieve.Proofs.Json.LowerKeys
import Sieve.Proofs.Settings.Loading
import Sieve.Settings.Catalog

/-!
# Sieve.Proofs.Settings.Spellings

Names that layers write in different cases. Layers are laid over one another name by name, as the
names are written; a catalog does not tell the case of ASCII letters, and registers names in their
order. So of all spellings of a name the last in order counts, whichever layer it comes from
(`Settings.last?_overlay`), and the upper layer prevails unless a later spelling of the lower layer
says something else: `Settings.StoreLayer.merged_catalog`.
-/

namespace Sieve

namespace Dict

variable {α β : Type}

/-- The entries whose names are a given one in some case of ASCII letters, in the order of names. -/
def spellings (d : Dict α) (name : String) : Entries α :=
  d.entries.filter fun e => Text.sameIgnoringCase e.1 name

/-- The spelling that counts. -/
def last? (d : Dict α) (name : String) : Option (String × α) := (d.spellings name).getLast?

section Last

variable {d : Dict α} {name : String} {e : String × α}

theorem mem_entries_iff : e ∈ d.entries ↔ d.get? e.1 = some e.2 := by
  have hfound := (Entries.forall_mem_iff d.sorted fun key v => d.get? key = some v).2
    fun key v hget => hget
  exact ⟨fun h => hfound e h, fun h => Entries.mem_of_get? h⟩

theorem mem_spellings_iff :
    e ∈ d.spellings name ↔ d.get? e.1 = some e.2 ∧ Text.sameIgnoringCase e.1 name = true := by
  rw [spellings, List.mem_filter, mem_entries_iff]

/-- The spelling that counts is the greatest one. -/
theorem last?_eq_some_iff :
    d.last? name = some e ↔ e ∈ d.spellings name ∧ ∀ other ∈ d.spellings name, other.1 ≤ e.1 := by
  rw [last?, spellings, Entries.getLast?_filter_iff d.sorted]
  simp only [List.mem_filter, and_imp, and_assoc]

theorem last?_eq_none_iff : d.last? name = none ↔ d.spellings name = [] :=
  List.getLast?_eq_none_iff

theorem mem_of_last? (h : d.last? name = some e) : e ∈ d.spellings name :=
  (last?_eq_some_iff.1 h).1

end Last

end Dict

namespace Settings

/-! ## Maps laid over one another -/

/-- The later of two spellings; of one and the same name the entry of the upper map. -/
def later (lower upper : Option (String × String)) : Option (String × String) :=
  match lower, upper with
  | some b, some u => if u.1 < b.1 then some b else some u
  | some b, none => some b
  | none, u => u

theorem later_none (lower : Option (String × String)) : later lower none = lower := by
  cases lower <;> rfl

theorem later_some (b u : String × String) :
    later (some b) (some u) = if u.1 < b.1 then some b else some u := rfl

section Overlay

variable {lower upper : Dict String} {name : String} {e : String × String}

/-- An entry of the lower map counts where the upper one does not spell the name just so. -/
theorem mem_spellings_overlay :
    e ∈ (overlay lower upper).spellings name ↔
      e ∈ upper.spellings name ∨ e ∈ lower.spellings name ∧ upper.get? e.1 = none := by
  simp only [Dict.mem_spellings_iff, upperDecides_overlay e.1 lower upper, Option.or_eq_some_iff]
  tauto

theorem get?_eq_none_of_last? (h : upper.last? name = none)
    (he : Text.sameIgnoringCase e.1 name = true) : upper.get? e.1 = none := by
  rw [Dict.last?_eq_none_iff] at h
  refine Option.eq_none_iff_forall_ne_some.2 fun v hv => ?_
  have hmem : (e.1, v) ∈ upper.spellings name := Dict.mem_spellings_iff.2 ⟨hv, he⟩
  rw [h] at hmem
  cases hmem

/-- Of the spellings in two maps laid over one another the last in order counts, whichever map it
comes from. -/
theorem last?_overlay (lower upper : Dict String) (name : String) :
    (overlay lower upper).last? name = later (lower.last? name) (upper.last? name) := by
  cases hu : upper.last? name with
  | none =>
    have hempty := Dict.last?_eq_none_iff.1 hu
    have hspellings (e : String × String) :
        e ∈ (overlay lower upper).spellings name ↔ e ∈ lower.spellings name := by
      rw [mem_spellings_overlay, hempty]
      simp only [List.not_mem_nil, false_or, and_iff_left_iff_imp]
      exact fun he => get?_eq_none_of_last? hu (Dict.mem_spellings_iff.1 he).2
    have hsame : (overlay lower upper).last? name = lower.last? name := by
      refine Option.ext fun e => ?_
      simp only [Dict.last?_eq_some_iff, hspellings]
    rw [hsame, later_none]
  | some u =>
    obtain ⟨hmemu, hgreatu⟩ := Dict.last?_eq_some_iff.1 hu
    cases hb : lower.last? name with
    | none =>
      have hempty := Dict.last?_eq_none_iff.1 hb
      refine Dict.last?_eq_some_iff.2 ⟨mem_spellings_overlay.2 (.inl hmemu), fun other hother => ?_⟩
      rw [mem_spellings_overlay, hempty] at hother
      exact hother.elim (hgreatu other) fun h => absurd h.1 List.not_mem_nil
    | some b =>
      obtain ⟨hmemb, hgreatb⟩ := Dict.last?_eq_some_iff.1 hb
      rw [later_some]
      by_cases hlt : u.1 < b.1
      · rw [if_pos hlt]
        -- The upper map has no spelling as late as this one, so it does not replace it.
        have hfree : upper.get? b.1 = none := by
          refine Option.eq_none_iff_forall_ne_some.2 fun v hv => ?_
          have hsame := (Dict.mem_spellings_iff.1 hmemb).2
          have hle := hgreatu (b.1, v) (Dict.mem_spellings_iff.2 ⟨hv, hsame⟩)
          exact absurd hlt (not_lt_of_ge hle)
        refine Dict.last?_eq_some_iff.2
          ⟨mem_spellings_overlay.2 (.inr ⟨hmemb, hfree⟩), fun other hother => ?_⟩
        rcases mem_spellings_overlay.1 hother with h | h
        · exact (hgreatu other h).trans (le_of_lt hlt)
        · exact hgreatb other h.1
      · rw [if_neg hlt]
        refine Dict.last?_eq_some_iff.2
          ⟨mem_spellings_overlay.2 (.inl hmemu), fun other hother => ?_⟩
        rcases mem_spellings_overlay.1 hother with h | h
        · exact hgreatu other h
        · exact (hgreatb other h.1).trans (not_lt.1 hlt)

end Overlay

/-! ## Which layer prevails -/

section Prevails

variable {β : Type} {read : String → β} {usual : β} {lower upper : Dict String} {name : String}

/-- What a map says of a name by the spelling that counts. -/
def said (read : String → β) (usual : β) (d : Dict String) (name : String) : β :=
  ((d.last? name).map fun e => read e.2).getD usual

/-- The upper map gives the answer to a name in one of its spellings. -/
def GivenBy (read : String → β) (upper : Dict String) (name : String) (answer : β) : Prop :=
  ∃ e ∈ upper.spellings name, read e.2 = answer

/-- The upper map decides: one of its spellings of the name gives the answer, or, where it has none,
the lower map by itself does. -/
def Prevails (read : String → β) (usual : β) (lower upper : Dict String) (name : String)
    (answer : β) : Prop :=
  if upper.spellings name = [] then answer = said read usual lower name
  else GivenBy read upper name answer

/-- Where the last spelling of the lower map comes after those of the upper one, it says nothing
that the upper map does not say. -/
def Unhidden (read : String → β) (lower upper : Dict String) (name : String) : Prop :=
  ∀ b ∈ lower.last? name, ∀ u ∈ upper.last? name, u.1 < b.1 → GivenBy read upper name (read b.2)

instance [DecidableEq β] (answer : β) : Decidable (GivenBy read upper name answer) :=
  inferInstanceAs (Decidable (∃ e ∈ upper.spellings name, read e.2 = answer))

instance [DecidableEq β] (answer : β) : Decidable (Prevails read usual lower upper name answer) :=
  inferInstanceAs (Decidable (ite ..))

instance [DecidableEq β] : Decidable (Unhidden read lower upper name) :=
  inferInstanceAs (Decidable (∀ b ∈ lower.last? name, ∀ u ∈ upper.last? name, u.1 < b.1 → _))

theorem prevails_iff :
    Prevails read usual lower upper name (said read usual (overlay lower upper) name) ↔
      Unhidden read lower upper name := by
  unfold Prevails Unhidden said
  rw [last?_overlay]
  cases hu : upper.last? name with
  | none =>
    rw [if_pos (Dict.last?_eq_none_iff.1 hu), later_none]
    exact ⟨fun _ _ _ u hu => (nomatch hu), fun _ => rfl⟩
  | some u =>
    have hmem := Dict.mem_of_last? hu
    have hgiven : GivenBy read upper name (read u.2) := ⟨u, hmem, rfl⟩
    rw [if_neg (List.ne_nil_of_mem hmem)]
    cases lower.last? name with
    | none => exact ⟨fun _ b hb => (nomatch hb), fun _ => hgiven⟩
    | some b =>
      rw [later_some]
      simp only [Option.mem_some_iff, forall_eq']
      by_cases hlt : u.1 < b.1
      · rw [if_pos hlt]
        exact ⟨fun h _ => h, fun h => h hlt⟩
      · rw [if_neg hlt]
        exact ⟨fun _ h => absurd h hlt, fun _ => hgiven⟩

end Prevails

end Settings

/-! ## Catalogs -/

namespace StoreSettings

open Settings (said)
open Sql (Catalog DocumentKind)

theorem withDocuments_eq_ok {table : String} {fields : Entries String} {c d : Catalog}
    (h : withDocuments table c fields = .ok d) (column : String) :
    d.columns = c.columns ∧
      d.kind? column =
        (((fields.filter fun e => Text.sameIgnoringCase e.1 column).getLast?.map
          fun e => DocumentKind.read? e.2).getD (c.kind? column)) := by
  induction fields generalizing c with
  | nil =>
    cases h
    exact ⟨rfl, rfl⟩
  | cons e fields ih =>
    obtain ⟨field, text⟩ := e
    rw [withDocuments] at h
    cases hkind : DocumentKind.read? text with
    | none =>
      rw [hkind] at h
      cases h
    | some kind =>
      rw [hkind] at h
      obtain ⟨hcolumns, hanswer⟩ := ih h
      refine ⟨hcolumns, hanswer.trans ?_⟩
      rw [Catalog.kind?_withDocument, List.filter_cons]
      by_cases hsame : Text.sameIgnoringCase field column = true
      · rw [if_pos (Text.sameIgnoringCase_iff.1 hsame), if_pos hsame, List.getLast?_cons]
        cases (fields.filter fun e => Text.sameIgnoringCase e.1 column).getLast? <;> simp [hkind]
      · rw [if_neg fun heq => hsame (Text.sameIgnoringCase_iff.2 heq), if_neg hsame]

theorem columnFor_withMappings (c : Catalog) (mappings : Entries String) (field : String) :
    (withMappings c mappings).columnFor field =
      ((mappings.filter fun e => Text.sameIgnoringCase e.1 field).getLast?.map
        fun e => e.2).getD (c.columnFor field) := by
  induction mappings generalizing c with
  | nil => rfl
  | cons e mappings ih =>
    obtain ⟨name, column⟩ := e
    rw [withMappings, List.foldl_cons]
    refine (ih _).trans ?_
    rw [Catalog.columnFor_withMapping, List.filter_cons]
    by_cases hsame : Text.sameIgnoringCase name field = true
    · rw [if_pos (Text.sameIgnoringCase_iff.1 hsame), if_pos hsame, List.getLast?_cons]
      cases (mappings.filter fun e => Text.sameIgnoringCase e.1 field).getLast? <;> rfl
    · rw [if_neg fun heq => hsame (Text.sameIgnoringCase_iff.2 heq), if_neg hsame]

theorem kinds_withMappings (c : Catalog) (mappings : Entries String) :
    (withMappings c mappings).kinds = c.kinds := by
  induction mappings generalizing c with
  | nil => rfl
  | cons e mappings ih => exact ih _

/-- A catalog answers by the last spellings of its names. -/
theorem catalog_eq_ok {s : StoreSettings} {c : Catalog} (h : s.catalog = .ok c) (name : String) :
    c.kind? name = said DocumentKind.read? none s.documentFields name ∧
      c.columnFor name = said id (Text.asciiLower name) s.fieldMappings name := by
  unfold catalog at h
  cases hdocuments : withDocuments s.table .empty s.documentFields.entries with
  | error e =>
    rw [hdocuments] at h
    cases h
  | ok d =>
    rw [hdocuments] at h
    cases h
    obtain ⟨hcolumns, hkind⟩ := withDocuments_eq_ok hdocuments name
    refine ⟨?_, (columnFor_withMappings d _ name).trans ?_⟩
    · rw [Catalog.kind?, kinds_withMappings]
      exact hkind
    · rw [Catalog.columnFor, hcolumns]
      rfl

end StoreSettings

namespace Settings.StoreLayer

open Sql (Catalog DocumentKind)

/-- The document fields of a layer, none where it says nothing. -/
def documents (l : StoreLayer) : Dict String := l.documentFields.getD .empty

/-- The mappings of a layer, none where it says nothing. -/
def mappings (l : StoreLayer) : Dict String := l.fieldMappings.getD .empty

theorem overlay_empty (d : Dict String) : overlay d .empty = d := rfl

theorem empty_overlay (d : Dict String) : overlay .empty d = d :=
  Dict.ext fun key => by
    rw [overlay, Dict.get?_merge_eq]
    cases d.get? key <;> rfl

theorem getD_merge (lower upper : Option (Dict String)) :
    (Option.merge overlay lower upper).getD .empty =
      overlay (lower.getD .empty) (upper.getD .empty) := by
  cases lower with
  | none =>
    cases upper with
    | none => exact (overlay_empty .empty).symm
    | some u => exact (empty_overlay u).symm
  | some b =>
    cases upper with
    | none => exact (overlay_empty b).symm
    | some u => rfl

theorem documents_merge (base upper : StoreLayer) :
    (base.merge upper).documents = overlay base.documents upper.documents := getD_merge ..

theorem mappings_merge (base upper : StoreLayer) :
    (base.merge upper).mappings = overlay base.mappings upper.mappings := getD_merge ..

/-- The catalog of a layer answers by the last spellings of its names. -/
theorem catalog_answers {l : StoreLayer} {name : String} {s : StoreSettings} {c : Catalog}
    (hs : l.settings name = .ok s) (hc : s.catalog = .ok c) (asked : String) :
    c.kind? asked = said DocumentKind.read? none l.documents asked ∧
      c.columnFor asked = said id (Text.asciiLower asked) l.mappings asked := by
  rw [settings_eq] at hs
  split at hs
  · cases hs
  · cases hs
    exact StoreSettings.catalog_eq_ok hc asked

section Merged

variable {base upper : StoreLayer} {name : String} {s : StoreSettings} {c : Catalog}

/-- Two layers laid over one another, wherever a catalog comes of them. On a column the upper layer
prevails if and only if no later spelling of the lower layer says otherwise, and likewise on the
mapping of a field. What the lower layer says is what its own catalog answers. -/
theorem merged_catalog (hs : (base.merge upper).settings name = .ok s) (hc : s.catalog = .ok c)
    (column field : String) :
    (Prevails DocumentKind.read? none base.documents upper.documents column (c.kind? column) ↔
        Unhidden DocumentKind.read? base.documents upper.documents column) ∧
      (Prevails id (Text.asciiLower field) base.mappings upper.mappings field
          (c.columnFor field) ↔
        Unhidden id base.mappings upper.mappings field) ∧
      ∀ t d, base.settings name = .ok t → t.catalog = .ok d →
        said DocumentKind.read? none base.documents column = d.kind? column ∧
          said id (Text.asciiLower field) base.mappings field = d.columnFor field := by
  have hkind := (catalog_answers hs hc column).1
  have hcolumn := (catalog_answers hs hc field).2
  rw [documents_merge] at hkind
  rw [mappings_merge] at hcolumn
  refine ⟨?_, ?_, fun t d ht hd => ?_⟩
  · rw [hkind]
    exact prevails_iff
  · rw [hcolumn]
    exact prevails_iff
  · exact ⟨(catalog_answers ht hd column).1.symm, (catalog_answers ht hd field).2.symm⟩

end Merged

/-- Settings of a store of sites. -/
def sites : StoreLayer where
  documentFields := some (.ofPairs [("Labels", "scalar"), ("metadata", "scalar")])
  fieldMappings := some (.ofPairs [("tenantId", "tenant_id")])

/-- Settings to be laid over them, with spellings of their own. -/
def respelled : StoreLayer where
  documentFields := some (.ofPairs [("Metadata", "array_of_scalars"), ("labels", "unknown")])
  fieldMappings := some (.ofPairs [("tenantid", "tenant")])

/-- Labels and tenants are what the upper layer says. -/
theorem merged_catalog_sites :
    ∃ s c, (sites.merge respelled).settings "sites" = .ok s ∧ s.catalog = .ok c ∧
      Prevails DocumentKind.read? none sites.documents respelled.documents "labels"
        (c.kind? "labels") ∧
      Prevails id "tenantid" sites.mappings respelled.mappings "tenantId"
        (c.columnFor "tenantId") := by
  have hs : (sites.merge respelled).settings "sites" =
      .ok ((sites.merge respelled).filled "sites") := by rfl
  obtain ⟨c, hc⟩ : ∃ c, ((sites.merge respelled).filled "sites").catalog = .ok c := ⟨_, rfl⟩
  obtain ⟨hkind, hcolumn, -⟩ := merged_catalog hs hc "labels" "tenantId"
  exact ⟨_, c, hs, hc, hkind.2 (by decide +kernel), hcolumn.2 (by decide +kernel)⟩

/-- The upper layer says that the metadata are arrays of scalars. They stay scalars, since its
spelling is the earlier one. -/
theorem metadata_stays_scalar :
    ∃ s c, (sites.merge respelled).settings "sites" = .ok s ∧ s.catalog = .ok c ∧
      c.kind? "metadata" = some .scalar ∧
      respelled.documents.spellings "metadata" = [("Metadata", "array_of_scalars")] ∧
      ¬ Prevails DocumentKind.read? none sites.documents respelled.documents "metadata"
        (c.kind? "metadata") := by
  refine ⟨_, _, rfl, rfl, ?_, ?_, ?_⟩ <;> decide +kernel

end Settings.StoreLayer

end Sieve
