import Mathlib.Data.List.Nodup
import Mathlib.Data.List.DropRight
import Sieve.Proofs.Settings.Overlay
import Sieve.Settings.Source

/-!
# Sieve.Proofs.Settings.Loading

What loading sources comes to. Sources of different precedences may be listed in any order; every
setting is the one of the highest source that gives it; and settings come about exactly if every
source loads and the checks of the layer that they add up to are passed.

* `Decided`: what a list of sources gives of a setting.
* `Layer.settings_eq_ok`: the settings of a layer, and when there are any.
* `load_layered`: the laws of layers and sources together.
-/

namespace Sieve

namespace Entries

variable {α β : Type}

theorem sorted_mapValues (f : String → α → β) {entries : Entries α} (h : Sorted entries) :
    Sorted (entries.map fun e => (e.1, f e.1 e.2)) := List.pairwise_map.2 h

theorem get?_mapValues (f : String → α → β) (key : String) (entries : Entries α) :
    get? key (entries.map fun e => (e.1, f e.1 e.2)) = (get? key entries).map (f key) := by
  induction entries with
  | nil => rfl
  | cons e rest ih =>
    rw [List.map_cons, get?, get?, ih]
    split
    · rename_i hkey
      rw [Option.map_some, hkey]
    · rfl

/-- Of entries in key order every one is found. -/
theorem forall_mem_iff {entries : Entries α} (h : Sorted entries) (P : String → α → Prop) :
    (∀ e ∈ entries, P e.1 e.2) ↔ ∀ key v, get? key entries = some v → P key v := by
  induction entries with
  | nil => simp [get?]
  | cons e rest ih =>
    obtain ⟨name, a⟩ := e
    obtain ⟨hlt, hrest⟩ := List.pairwise_cons.1 h
    rw [List.forall_mem_cons, ih hrest]
    constructor
    · rintro ⟨hhead, htail⟩ key v hget
      rw [get?] at hget
      split at hget
      · rename_i hkey
        cases hget
        rwa [← hkey]
      · exact htail key v hget
    · intro hall
      refine ⟨hall name a (get?_cons_self name a rest), fun key v hget => hall key v ?_⟩
      have hne : name ≠ key := by
        rintro rfl
        rw [get?_eq_none_of_lt hlt] at hget
        cases hget
      rw [get?, if_neg hne, hget]

end Entries

namespace Text

/-- A text of white space alone. -/
def AllBlank (s : String) : Prop := ∀ c ∈ s.toList, isBlank c = true

theorem trim_eq_empty {s : String} : trim s = "" ↔ AllBlank s := by
  have hempty : ∀ cs : List Char, String.ofList cs = "" ↔ cs = [] := fun cs => by
    rw [← String.toList_inj, String.toList_ofList]
    rfl
  have honce : s.toList.dropWhile isBlank = [] ↔ ∀ c ∈ s.toList.dropWhile isBlank, isBlank c := by
    rw [← List.dropWhile_eq_nil_iff, List.dropWhile_idempotent]
  rw [trim, hempty, trimEnd, List.reverse_eq_nil_iff, List.dropWhile_eq_nil_iff, trimStart]
  simp only [List.mem_reverse]
  rw [← honce, List.dropWhile_eq_nil_iff]
  rfl

end Text

namespace Settings

/-! ## Sources in order -/

namespace Source

/-- The source has nothing to say of a setting. -/
def Silent (give : Layer → Option β) (s : Source) : Prop := ∀ l, s.outcome = .ok l → give l = none

theorem byPrecedence_perm (sources : List Source) : (byPrecedence sources).Perm sources :=
  List.mergeSort_perm _ _

theorem byPrecedence_pairwise (sources : List Source) :
    (byPrecedence sources).Pairwise fun a b => a.precedence.rank ≤ b.precedence.rank := by
  let le : Source → Source → Bool := fun a b => a.precedence.rank ≤ b.precedence.rank
  have htrans : ∀ a b c, le a b → le b c → le a c := fun a b c hab hbc => by
    simp only [le, decide_eq_true_eq] at *
    omega
  have htotal : ∀ a b, le a b || le b a := fun a b => by
    simp only [le, Bool.or_eq_true, decide_eq_true_eq]
    omega
  exact (List.pairwise_mergeSort htrans htotal sources).imp of_decide_eq_true

theorem rank_injective {p q : Precedence} (h : p.rank = q.rank) : p = q := by
  cases p <;> cases q <;> first | rfl | cases h

/-- Sources of different precedences have one order. -/
theorem byPrecedence_eq {sources others : List Source}
    (hdistinct : (sources.map (·.precedence)).Nodup) (h : sources.Perm others) :
    byPrecedence sources = byPrecedence others := by
  have hperm : (byPrecedence sources).Perm (byPrecedence others) :=
    (byPrecedence_perm sources).trans (h.trans (byPrecedence_perm others).symm)
  refine hperm.eq_of_pairwise (fun a b ha hb hab hba => ?_) (byPrecedence_pairwise sources)
    (byPrecedence_pairwise others)
  have hmem : ∀ s ∈ byPrecedence others, s ∈ sources := fun s hs =>
    h.mem_iff.2 ((byPrecedence_perm others).mem_iff.1 hs)
  exact List.inj_on_of_nodup_map hdistinct ((byPrecedence_perm sources).mem_iff.1 ha) (hmem b hb)
    (rank_injective (Nat.le_antisymm hab hba))

section Stack

variable {β : Type} {give : Layer → Option β} {base l : Layer} {sources : List Source}

theorem stack_cons {s : Source} (h : stack base (s :: sources) = .ok l) :
    ∃ layer, s.outcome = .ok layer ∧ stack (base.merge layer) sources = .ok l := by
  rw [stack] at h
  split at h
  · cases h
  · next layer hlayer => exact ⟨layer, hlayer, h⟩

/-- The last source that gives a setting decides it, by induction from the lowest source up. -/
theorem give_stack (hgive : UpperDecides Layer.merge give) (h : stack base sources = .ok l) :
    (∃ before s layer after v, sources = before ++ s :: after ∧ s.outcome = .ok layer ∧
        give layer = some v ∧ give l = some v ∧ ∀ t ∈ after, t.Silent give) ∨
      (∀ s ∈ sources, s.Silent give) ∧ give l = give base := by
  induction sources generalizing base with
  | nil =>
    cases h
    exact .inr ⟨fun s hs => (List.not_mem_nil hs).elim, rfl⟩
  | cons s more ih =>
    obtain ⟨layer, hlayer, hmore⟩ := stack_cons h
    rcases ih hmore with ⟨before, t, upper, after, v, rfl, hdecided⟩ | ⟨hsilent, hl⟩
    · exact .inl ⟨s :: before, t, upper, after, v, rfl, hdecided⟩
    · rw [hgive] at hl
      cases hv : give layer with
      | some v =>
        rw [hv] at hl
        exact .inl ⟨[], s, layer, more, v, rfl, hlayer, hv, hl, hsilent⟩
      | none =>
        rw [hv] at hl
        refine .inr ⟨List.forall_mem_cons.2 ⟨fun other hother => ?_, hsilent⟩, hl⟩
        rw [hlayer] at hother
        cases hother
        exact hv

theorem exists_stack (base : Layer) (sources : List Source) :
    (∃ l, stack base sources = .ok l) ↔ ∀ s ∈ sources, ∃ layer, s.outcome = .ok layer := by
  induction sources generalizing base with
  | nil => exact iff_of_true ⟨base, rfl⟩ fun s hs => (List.not_mem_nil hs).elim
  | cons s more ih =>
    rw [List.forall_mem_cons]
    constructor
    · rintro ⟨l, hl⟩
      obtain ⟨layer, hlayer, hmore⟩ := stack_cons hl
      exact ⟨⟨layer, hlayer⟩, (ih _).1 ⟨l, hmore⟩⟩
    · rintro ⟨⟨layer, hlayer⟩, hmore⟩
      obtain ⟨l, hl⟩ := (ih (base.merge layer)).2 hmore
      exact ⟨l, by rw [stack, hlayer]; exact hl⟩

end Stack

end Source

/-- What sources give of a setting: of those that give any, the one of the highest precedence
counts. -/
inductive Decided (sources : List Source) (give : Layer → Option β) : Option β → Prop where
  | given {s : Source} {l : Layer} {v : β} (listed : s ∈ sources) (loaded : s.outcome = .ok l)
      (gives : give l = some v)
      (highest : ∀ t ∈ sources, s.precedence.rank < t.precedence.rank → t.Silent give) :
      Decided sources give (some v)
  | absent (silent : ∀ s ∈ sources, s.Silent give) : Decided sources give none

section Decided

variable {β : Type} {give : Layer → Option β} {sources others : List Source} {l : Layer}

theorem Decided.perm {v : Option β} (h : Decided sources give v) (hperm : sources.Perm others) :
    Decided others give v := by
  cases h with
  | given hlisted hloaded hgives hhighest =>
    exact .given (hperm.mem_iff.1 hlisted) hloaded hgives fun t ht =>
      hhighest t (hperm.mem_iff.2 ht)
  | absent hsilent => exact .absent fun s hs => hsilent s (hperm.mem_iff.2 hs)

/-- A setting of the layer that sources add up to is what they give of it. -/
theorem decided_of_stack (hgive : UpperDecides Layer.merge give) (hempty : give .empty = none)
    (h : Source.stack .empty (Source.byPrecedence sources) = .ok l) :
    Decided sources give (give l) := by
  refine Decided.perm ?_ (Source.byPrecedence_perm sources)
  rcases Source.give_stack hgive h with
    ⟨before, s, layer, after, v, hsplit, hloaded, hgives, hv, hafter⟩ | ⟨hsilent, hv⟩
  · have hsorted := Source.byPrecedence_pairwise sources
    rw [hv]
    rw [hsplit] at hsorted ⊢
    refine .given (by simp) hloaded hgives fun t ht hlt => ?_
    rcases List.mem_append.1 ht with hbefore | htail
    · have hle := (List.pairwise_append.1 hsorted).2.2 t hbefore s (List.mem_cons_self ..)
      omega
    · rcases List.mem_cons.1 htail with rfl | htail
      · omega
      · exact hafter t htail
  · rw [hv, hempty]
    exact .absent hsilent

end Decided

/-! ## The settings of a layer -/

/-- The checks that a layer has to pass: no table has a blank name, and the sizes of pages are
positive, the usual one not above the greatest. -/
structure Layer.IsSound (l : Layer) : Prop where
  tables : ∀ name, l.names? name = some () → ¬ Text.AllBlank ((l.table? name).getD name)
  positive : 0 < l.defaultPageSize?.getD usual.query.defaultPageSize
  bounded : l.defaultPageSize?.getD usual.query.defaultPageSize ≤
    l.maxPageSize?.getD usual.query.maxPageSize

/-- The settings of a store, without the check. -/
def StoreLayer.filled (name : String) (l : StoreLayer) : StoreSettings :=
  ⟨l.table.getD name, l.documentFields.getD .empty, l.fieldMappings.getD .empty⟩

/-- The settings of a layer, without the checks. -/
def Layer.filled (l : Layer) : Settings where
  database := (l.database.getD {}).settings
  logging := (l.logging.getD {}).settings
  query := (l.query.getD {}).settings
  stores := .ofPairs ((l.stores.getD .empty).entries.map fun e => (e.1, e.2.filled e.1))

theorem StoreLayer.settings_eq (name : String) (l : StoreLayer) :
    l.settings name =
      if Text.trim (l.table.getD name) = "" then .error (.emptyTable name)
      else .ok (l.filled name) := rfl

namespace Layer

section Stores

variable {layers : Entries StoreLayer}

theorem storeSettings_of_named (h : ∀ e ∈ layers, ¬ Text.AllBlank (e.2.table.getD e.1)) :
    storeSettings layers = .ok (layers.map fun e => (e.1, e.2.filled e.1)) := by
  induction layers with
  | nil => rfl
  | cons e rest ih =>
    obtain ⟨hhead, htail⟩ := List.forall_mem_cons.1 h
    rw [storeSettings, StoreLayer.settings_eq, if_neg (mt Text.trim_eq_empty.1 hhead), ih htail]
    rfl

theorem named_of_storeSettings {stores : Entries StoreSettings}
    (h : storeSettings layers = .ok stores) :
    ∀ e ∈ layers, ¬ Text.AllBlank (e.2.table.getD e.1) := by
  induction layers generalizing stores with
  | nil => exact fun e he => (List.not_mem_nil he).elim
  | cons e rest ih =>
    rw [storeSettings, StoreLayer.settings_eq] at h
    split at h
    · cases h
    · next hhead =>
      refine List.forall_mem_cons.2 ⟨mt Text.trim_eq_empty.2 hhead, ?_⟩
      cases hrest : storeSettings rest with
      | error e =>
        rw [hrest] at h
        cases h
      | ok out => exact ih hrest

end Stores

section Settings

variable {l : Layer} {s : Settings}

/-- What the layer says of a store is read off the entries of its stores. -/
theorem tables_iff (l : Layer) :
    (∀ e ∈ (l.stores.getD .empty).entries, ¬ Text.AllBlank (e.2.table.getD e.1)) ↔
      ∀ name, l.names? name = some () → ¬ Text.AllBlank ((l.table? name).getD name) := by
  rw [Entries.forall_mem_iff (l.stores.getD .empty).sorted
    fun name store => ¬ Text.AllBlank (store.table.getD name)]
  refine forall_congr' fun name => ?_
  cases hstores : l.stores with
  | none => simp [names?, ofStore?, hstores, Dict.empty, Entries.get?]
  | some stores =>
    have hget : Entries.get? name stores.entries = stores.get? name := rfl
    cases hstore : stores.get? name <;>
      simp [names?, table?, ofStore?, hstores, hget, hstore]

theorem validate_eq_ok (q : QuerySettings) :
    q.validate = .ok () ↔ 0 < q.defaultPageSize ∧ q.defaultPageSize ≤ q.maxPageSize := by
  have hzero : (0 : UInt64).toNat = 0 := rfl
  simp only [QuerySettings.validate, UInt64.lt_iff_toNat_lt, UInt64.le_iff_toNat_le,
    ← UInt64.toNat_inj, hzero]
  split
  · simp only [reduceCtorEq, false_iff]
    omega
  · split
    · simp only [reduceCtorEq, false_iff]
      omega
    · simp only [true_iff]
      omega

theorem filled_query (l : Layer) :
    l.filled.query.defaultPageSize = l.defaultPageSize?.getD usual.query.defaultPageSize ∧
      l.filled.query.maxPageSize = l.maxPageSize?.getD usual.query.maxPageSize := by
  unfold filled defaultPageSize? maxPageSize?
  cases l.query <;> exact ⟨rfl, rfl⟩

/-- A layer has settings exactly if it passes the checks. -/
theorem settings_eq_ok : l.settings = .ok s ↔ l.IsSound ∧ s = l.filled := by
  have hquery := filled_query l
  have hvalid := validate_eq_ok l.filled.query
  rw [hquery.1, hquery.2] at hvalid
  have hstores : ∀ stores, storeSettings (l.stores.getD .empty).entries = .ok stores →
      l.settings = l.filled.query.validate.map fun _ =>
        { l.filled with stores := .ofPairs stores } := by
    intro stores h
    rw [settings, h]
    rfl
  constructor
  · intro h
    cases hloaded : storeSettings (l.stores.getD .empty).entries with
    | error e =>
      rw [settings, hloaded] at h
      cases h
    | ok stores =>
      have htables := named_of_storeSettings hloaded
      rw [storeSettings_of_named htables] at hloaded
      cases hloaded
      rw [hstores _ (storeSettings_of_named htables)] at h
      cases hcheck : l.filled.query.validate with
      | error e =>
        rw [hcheck] at h
        cases h
      | ok done =>
        rw [hcheck] at h
        obtain ⟨hpositive, hbounded⟩ := hvalid.1 hcheck
        exact ⟨⟨(tables_iff l).1 htables, hpositive, hbounded⟩, (Except.ok.inj h).symm⟩
  · rintro ⟨hsound, rfl⟩
    have htables := storeSettings_of_named ((tables_iff l).2 hsound.tables)
    rw [hstores _ htables, hvalid.2 ⟨hsound.positive, hsound.bounded⟩]
    rfl

theorem filled_store? (name : String) :
    l.filled.store? name = (l.ofStore? name some).map (StoreLayer.filled name) := by
  have hsorted := Entries.sorted_mapValues StoreLayer.filled (l.stores.getD .empty).sorted
  have hget : l.filled.store? name =
      (Entries.get? name (l.stores.getD .empty).entries).map (StoreLayer.filled name) := by
    rw [← Entries.get?_mapValues, ← Entries.ofPairs_of_sorted hsorted]
    rfl
  rw [hget]
  unfold ofStore?
  cases l.stores with
  | none => rfl
  | some stores => simp [Dict.get?]

end Settings

end Layer

/-! ## Loading -/

/-- Settings say what sources give, and the usual where no source gives anything. A store is there
if some source names it; its table has its name unless a source says otherwise. -/
structure Follows (sources : List Source) (s : Settings) : Prop where
  url : ∃ v, Decided sources Layer.url? v ∧ s.database.url = v.getD usual.database.url
  maxConnections : ∃ v, Decided sources Layer.maxConnections? v ∧
    s.database.maxConnections = v.getD usual.database.maxConnections
  level : ∃ v, Decided sources Layer.level? v ∧ s.logging.level = v.getD usual.logging.level
  json : ∃ v, Decided sources Layer.json? v ∧ s.logging.json = v.getD usual.logging.json
  defaultPageSize : ∃ v, Decided sources Layer.defaultPageSize? v ∧
    s.query.defaultPageSize = v.getD usual.query.defaultPageSize
  maxPageSize : ∃ v, Decided sources Layer.maxPageSize? v ∧
    s.query.maxPageSize = v.getD usual.query.maxPageSize
  stores : ∀ name, (s.store? name).isSome ↔
    ∃ source ∈ sources, ∃ l, source.outcome = .ok l ∧ l.names? name = some ()
  table : ∀ name store, s.store? name = some store →
    ∃ v, Decided sources (Layer.table? name) v ∧ store.table = v.getD name
  documentField : ∀ name store field, s.store? name = some store →
    Decided sources (Layer.documentField? name field) (store.documentFields.get? field)
  fieldMapping : ∀ name store field, s.store? name = some store →
    Decided sources (Layer.fieldMapping? name field) (store.fieldMappings.get? field)

/-- The checks that settings have passed. -/
structure Checked (s : Settings) : Prop where
  tables : ∀ name store, s.store? name = some store → ¬ Text.AllBlank store.table
  positive : 0 < s.query.defaultPageSize
  bounded : s.query.defaultPageSize ≤ s.query.maxPageSize

section Loading

variable {sources : List Source} {s : Settings} {l : Layer}

theorem load_eq_ok : load sources = .ok s ↔
    ∃ l, Source.stack .empty (Source.byPrecedence sources) = .ok l ∧ l.IsSound ∧ s = l.filled := by
  unfold load
  cases hstack : Source.stack .empty (Source.byPrecedence sources) with
  | error e => simp
  | ok l => simp [Layer.settings_eq_ok]

theorem Decided.names_iff {name : String} {v : Option Unit}
    (h : Decided sources (Layer.names? name) v) : v = some () ↔
      ∃ source ∈ sources, ∃ l, source.outcome = .ok l ∧ l.names? name = some () := by
  cases h with
  | given hlisted hloaded hgives _ => exact iff_of_true rfl ⟨_, hlisted, _, hloaded, hgives⟩
  | absent hsilent =>
    refine iff_of_false (by simp) ?_
    rintro ⟨source, hsource, l, hl, hnames⟩
    rw [hsilent source hsource l hl] at hnames
    cases hnames

/-- What a filled layer has of a store is what the layer says of it. -/
theorem Layer.filled_of_store? {name : String} {store : StoreSettings}
    (h : l.filled.store? name = some store) : l.names? name = some () ∧
      store.table = (l.table? name).getD name ∧
      (∀ field, store.documentFields.get? field = l.documentField? name field) ∧
      ∀ field, store.fieldMappings.get? field = l.fieldMapping? name field := by
  rw [filled_store?] at h
  unfold names? table? documentField? fieldMapping? ofStore? at *
  cases hstores : l.stores with
  | none => simp [hstores] at h
  | some stores =>
    cases hstore : stores.get? name with
    | none => simp [hstores, hstore] at h
    | some layer =>
      simp only [hstores, hstore, Option.bind_some, Option.map_some, Option.some.injEq] at h
      subst h
      simp only [Option.bind_some, hstore]
      have hget : ∀ (map : Option (Dict String)) (field : String),
          (map.getD .empty).get? field = map.bind (·.get? field) := fun map field => by
        cases map <;> rfl
      exact ⟨trivial, rfl, hget layer.documentFields, hget layer.fieldMappings⟩

theorem follows_filled (h : Source.stack .empty (Source.byPrecedence sources) = .ok l) :
    l.filled.Follows sources := by
  have hdecided : ∀ {β : Type} {give : Layer → Option β}, UpperDecides Layer.merge give →
      give .empty = none → Decided sources give (give l) := fun hgive hempty =>
    decided_of_stack hgive hempty h
  have hdatabase : l.filled.database.url = l.url?.getD usual.database.url ∧
      l.filled.database.maxConnections = l.maxConnections?.getD usual.database.maxConnections := by
    unfold Layer.filled Layer.url? Layer.maxConnections?
    cases l.database <;> exact ⟨rfl, rfl⟩
  have hlogging : l.filled.logging.level = l.level?.getD usual.logging.level ∧
      l.filled.logging.json = l.json?.getD usual.logging.json := by
    unfold Layer.filled Layer.level? Layer.json?
    cases l.logging <;> exact ⟨rfl, rfl⟩
  have hquery := Layer.filled_query l
  refine ⟨⟨_, hdecided Layer.upperDecides_url rfl, hdatabase.1⟩,
    ⟨_, hdecided Layer.upperDecides_maxConnections rfl, hdatabase.2⟩,
    ⟨_, hdecided Layer.upperDecides_level rfl, hlogging.1⟩,
    ⟨_, hdecided Layer.upperDecides_json rfl, hlogging.2⟩,
    ⟨_, hdecided Layer.upperDecides_defaultPageSize rfl, hquery.1⟩,
    ⟨_, hdecided Layer.upperDecides_maxPageSize rfl, hquery.2⟩, fun name => ?_,
    fun name store hstore => ?_, fun name store field hstore => ?_,
    fun name store field hstore => ?_⟩
  · rw [← (hdecided (Layer.upperDecides_names name) rfl).names_iff, Layer.filled_store?,
      Option.isSome_map, Layer.names?, Layer.ofStore?, Layer.ofStore?]
    cases l.stores with
    | none => simp
    | some stores => cases hget : stores.get? name <;> simp [hget]
  · exact ⟨_, hdecided (Layer.upperDecides_table name) rfl, (Layer.filled_of_store? hstore).2.1⟩
  · rw [(Layer.filled_of_store? hstore).2.2.1 field]
    exact hdecided (Layer.upperDecides_documentField name field) rfl
  · rw [(Layer.filled_of_store? hstore).2.2.2 field]
    exact hdecided (Layer.upperDecides_fieldMapping name field) rfl

theorem Layer.IsSound.checked_filled (h : l.IsSound) : l.filled.Checked := by
  have hquery := Layer.filled_query l
  refine ⟨fun name store hstore => ?_, ?_, ?_⟩
  · obtain ⟨hnames, htable, -⟩ := Layer.filled_of_store? hstore
    rw [htable]
    exact h.tables name hnames
  · rw [hquery.1]
    exact h.positive
  · rw [hquery.1, hquery.2]
    exact h.bounded

/-- The defaults and a missing file leave everything to the environment. -/
theorem loadWithFile_missing (path : String) (env : Environment) :
    loadWithFile path (.error .missing) env = loadFromEnvironment env := by
  have hsorted : Source.byPrecedence
      [.defaults, .file path (.error .missing), .environment env] =
        [.defaults, .file path (.error .missing), .environment env] := by
    refine List.mergeSort_of_pairwise ?_
    simp [Source.defaults, Source.file, Source.environment, Precedence.rank]
  have halone : Source.byPrecedence [.environment env] = [.environment env] :=
    List.mergeSort_singleton _
  have hdefaults : Source.defaults.outcome = .ok .empty := rfl
  have hfile : (Source.file path (.error .missing)).outcome = .ok .empty := rfl
  simp only [loadWithFile, loadFromEnvironment, load, hsorted, halone, Source.stack, hdefaults,
    hfile, Layer.merge_empty]

/-- It makes no difference which of several layers are put together first, nor does a layer that
gives nothing. Sources of different precedences come to the same in any order; settings say what
the highest source says, and come about exactly if all sources load and add up to a layer that
passes the checks. A file that is missing gives nothing. -/
theorem load_layered :
    ((∀ a b c : Layer, (a.merge b).merge c = a.merge (b.merge c)) ∧
      ∀ l : Layer, l.merge .empty = l ∧ Layer.empty.merge l = l) ∧
    (∀ sources : List Source, (sources.map (·.precedence)).Nodup →
      (∀ others, sources.Perm others → load others = load sources) ∧
      (∀ s, load sources = .ok s → s.Follows sources ∧ s.Checked) ∧
      ((∃ s, load sources = .ok s) ↔
        (∀ source ∈ sources, ∃ l, source.outcome = .ok l) ∧
        ∀ l, Source.stack .empty (Source.byPrecedence sources) = .ok l → l.IsSound)) ∧
    ∀ path env, loadWithFile path (.error .missing) env = loadFromEnvironment env := by
  refine ⟨⟨Layer.merge_assoc, fun l => ⟨l.merge_empty, l.empty_merge⟩⟩,
    fun sources hdistinct => ⟨fun others hperm => ?_, fun s hs => ?_, ?_⟩, fun path env => ?_⟩
  · rw [load, load, Source.byPrecedence_eq hdistinct hperm]
  · obtain ⟨l, hl, hsound, rfl⟩ := load_eq_ok.1 hs
    exact ⟨follows_filled hl, hsound.checked_filled⟩
  · have hall := (Source.exists_stack .empty (Source.byPrecedence sources)).trans
      (forall_congr' fun s => imp_congr_left (Source.byPrecedence_perm sources).mem_iff)
    rw [← hall]
    constructor
    · rintro ⟨s, hs⟩
      obtain ⟨l, hl, hsound, -⟩ := load_eq_ok.1 hs
      refine ⟨⟨l, hl⟩, fun l' hl' => ?_⟩
      rw [hl] at hl'
      cases hl'
      exact hsound
    · rintro ⟨⟨l, hl⟩, hsound⟩
      exact ⟨l.filled, load_eq_ok.2 ⟨l, hl, hsound l hl, rfl⟩⟩
  · exact loadWithFile_missing path env

/-- A file with the table of a store and the greatest size of a page. -/
def sitesFile : Source where
  name := "toml-config"
  precedence := .file
  outcome := .ok {
    query := some { defaultPageSize := some 20, maxPageSize := some 100 }
    stores := some (.ofPairs [("sites", { table := some "ops.sites" })]) }

/-- An environment with another size of pages. -/
def wideEnvironment : Source where
  name := "environment"
  precedence := .environment
  outcome := .ok { query := some { defaultPageSize := some 60 } }

/-- The environment counts, wherever it stands in the list, and the file where it is silent. -/
theorem load_layered_sites :
    let sources := [wideEnvironment, sitesFile]
    (sources.map (·.precedence)).Nodup ∧ sources.Perm [sitesFile, wideEnvironment] ∧
      load [sitesFile, wideEnvironment] = load sources ∧
      ∃ s, load sources = .ok s ∧ s.Follows sources ∧ s.Checked := by
  intro sources
  have hdistinct : (sources.map (·.precedence)).Nodup := by decide
  have hperm : sources.Perm [sitesFile, wideEnvironment] := .swap _ _ _
  obtain ⟨horder, hfollows, hloads⟩ := load_layered.2.1 sources hdistinct
  have hsources : ∀ source ∈ sources, ∃ l, source.outcome = .ok l :=
    List.forall_mem_cons.2 ⟨⟨_, rfl⟩, List.forall_mem_singleton.2 ⟨_, rfl⟩⟩
  have hsorted : Source.byPrecedence sources = [sitesFile, wideEnvironment] := by
    rw [Source.byPrecedence_eq hdistinct hperm]
    exact List.mergeSort_of_pairwise (by decide)
  have hsound : ∀ l, Source.stack .empty (Source.byPrecedence sources) = .ok l → l.IsSound := by
    intro l hl
    rw [hsorted] at hl
    cases hl
    refine ⟨fun name hnames => ?_, by decide, by decide⟩
    by_cases hname : "sites" = name
    · subst hname
      exact fun hblank => absurd (hblank 'o' (by decide)) (by decide)
    · have hnone : (Dict.ofPairs [("sites", StoreLayer.mk (some "ops.sites") none none)]).get?
          name = none := if_neg hname
      cases (congrArg (Option.bind · fun _ => some ()) hnone).symm.trans hnames
  obtain ⟨s, hs⟩ := hloads.2 ⟨hsources, hsound⟩
  exact ⟨hdistinct, hperm, horder _ hperm, s, hs, hfollows s hs⟩

end Loading

end Settings
end Sieve
