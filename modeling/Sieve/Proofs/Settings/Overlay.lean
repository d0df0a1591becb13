import Mathlib.Data.Option.Basic
import Sieve.Settings.Layer

/-!
# Sieve.Proofs.Settings.Overlay

Layers laid over one another. Which of several layers are put together first makes no difference
(`Layer.merge_assoc`), and a single setting is the one of the upper layer if that gives it, the one
of the lower layer otherwise (`UpperDecides`), down to the entries of the maps of a store.
-/

namespace Sieve

namespace Dict

variable {α : Type} (join : α → α → α)

theorem get?_merge_eq (base upper : Dict α) (key : String) :
    (base.merge join upper).get? key = Option.merge join (base.get? key) (upper.get? key) := by
  rw [get?_merge, joined_eq_merge]

instance [Std.Associative join] : Std.Associative (Dict.merge join) where
  assoc a b c := by
    refine ext fun key => ?_
    simp only [get?_merge_eq]
    exact (inferInstance : Std.Associative (Option.merge join)).assoc _ _ _

end Dict

namespace Settings

/-! ## Order of overlays -/

section Associative

instance : Std.Associative overlay where
  assoc a b c := by
    have hlast : Std.Associative fun _ new : String => new := ⟨fun _ _ _ => rfl⟩
    exact (inferInstance : Std.Associative (Dict.merge fun _ new : String => new)).assoc a b c

instance : Std.Associative DatabaseLayer.merge where
  assoc a b c := by simp only [DatabaseLayer.merge, Option.or_assoc]

instance : Std.Associative LoggingLayer.merge where
  assoc a b c := by simp only [LoggingLayer.merge, Option.or_assoc]

instance : Std.Associative QueryLayer.merge where
  assoc a b c := by simp only [QueryLayer.merge, Option.or_assoc]

instance : Std.Associative StoreLayer.merge where
  assoc a b c := by
    have hmaps := (inferInstance : Std.Associative (Option.merge overlay)).assoc
    simp only [StoreLayer.merge, Option.or_assoc, hmaps]

theorem Layer.merge_assoc (a b c : Layer) : (a.merge b).merge c = a.merge (b.merge c) := by
  have hdatabase := (inferInstance : Std.Associative (Option.merge DatabaseLayer.merge)).assoc
  have hlogging := (inferInstance : Std.Associative (Option.merge LoggingLayer.merge)).assoc
  have hquery := (inferInstance : Std.Associative (Option.merge QueryLayer.merge)).assoc
  have hentries : Std.Associative (Option.merge (Dict.merge StoreLayer.merge)) := inferInstance
  have hstores := hentries.assoc
  simp only [Layer.merge, hdatabase, hlogging, hquery, hstores]

end Associative

/-! ## Single settings -/

section UpperDecides

variable {α β : Type} {merge : α → α → α} {give : α → Option β}

/-- Of two things laid over one another the upper one decides what is given, if it gives any. -/
def UpperDecides (merge : α → α → α) (give : α → Option β) : Prop :=
  ∀ base upper, give (merge base upper) = (give upper).or (give base)

/-- In a part that may be missing. -/
theorem UpperDecides.inPart (h : UpperDecides merge give) :
    UpperDecides (Option.merge merge) (·.bind give) := by
  intro base upper
  cases base with
  | none => cases upper <;> simp
  | some a =>
    cases upper with
    | none => simp
    | some b => exact h a b

/-- In the entry of a map. -/
theorem UpperDecides.inEntry (h : UpperDecides merge give) (key : String) :
    UpperDecides (Dict.merge merge) fun d => (d.get? key).bind give := by
  intro base upper
  simp only [Dict.get?_merge_eq]
  exact h.inPart (base.get? key) (upper.get? key)

/-- Of two texts the upper one counts. -/
theorem upperDecides_overlay (key : String) : UpperDecides overlay (·.get? key) := by
  intro base upper
  have hlast : UpperDecides (fun _ new : String => new) some := fun _ _ => rfl
  simpa [overlay] using hlast.inEntry key base upper

end UpperDecides

namespace Layer

def url? (l : Layer) : Option String := l.database.bind (·.url)

def maxConnections? (l : Layer) : Option UInt32 := l.database.bind (·.maxConnections)

def level? (l : Layer) : Option String := l.logging.bind (·.level)

def json? (l : Layer) : Option Bool := l.logging.bind (·.json)

def defaultPageSize? (l : Layer) : Option UInt64 := l.query.bind (·.defaultPageSize)

def maxPageSize? (l : Layer) : Option UInt64 := l.query.bind (·.maxPageSize)

/-- What the layer says of a store. -/
def ofStore? (name : String) (give : StoreLayer → Option β) (l : Layer) : Option β :=
  l.stores.bind fun stores => (stores.get? name).bind give

/-- The layer names a store. -/
def names? (name : String) : Layer → Option Unit := ofStore? name fun _ => some ()

def table? (name : String) : Layer → Option String := ofStore? name (·.table)

/-- The kind of a document field of a store. -/
def documentField? (name field : String) : Layer → Option String :=
  ofStore? name fun store => store.documentFields.bind (·.get? field)

/-- The column of a field of a store. -/
def fieldMapping? (name field : String) : Layer → Option String :=
  ofStore? name fun store => store.fieldMappings.bind (·.get? field)

section UpperDecides

variable {β : Type} (name field : String)

theorem upperDecides_url : UpperDecides merge url? := fun base upper =>
  have hpart : UpperDecides DatabaseLayer.merge DatabaseLayer.url := fun _ _ => rfl
  hpart.inPart base.database upper.database

theorem upperDecides_maxConnections : UpperDecides merge maxConnections? := fun base upper =>
  have hpart : UpperDecides DatabaseLayer.merge DatabaseLayer.maxConnections := fun _ _ => rfl
  hpart.inPart base.database upper.database

theorem upperDecides_level : UpperDecides merge level? := fun base upper =>
  have hpart : UpperDecides LoggingLayer.merge LoggingLayer.level := fun _ _ => rfl
  hpart.inPart base.logging upper.logging

theorem upperDecides_json : UpperDecides merge json? := fun base upper =>
  have hpart : UpperDecides LoggingLayer.merge LoggingLayer.json := fun _ _ => rfl
  hpart.inPart base.logging upper.logging

theorem upperDecides_defaultPageSize : UpperDecides merge defaultPageSize? := fun base upper =>
  have hpart : UpperDecides QueryLayer.merge QueryLayer.defaultPageSize := fun _ _ => rfl
  hpart.inPart base.query upper.query

theorem upperDecides_maxPageSize : UpperDecides merge maxPageSize? := fun base upper =>
  have hpart : UpperDecides QueryLayer.merge QueryLayer.maxPageSize := fun _ _ => rfl
  hpart.inPart base.query upper.query

theorem upperDecides_ofStore {give : StoreLayer → Option β}
    (h : UpperDecides StoreLayer.merge give) : UpperDecides merge (ofStore? name give) :=
  fun base upper => (h.inEntry name).inPart base.stores upper.stores

theorem upperDecides_names : UpperDecides merge (names? name) :=
  upperDecides_ofStore name fun _ _ => rfl

theorem upperDecides_table : UpperDecides merge (table? name) :=
  upperDecides_ofStore name fun _ _ => rfl

theorem upperDecides_documentField : UpperDecides merge (documentField? name field) :=
  upperDecides_ofStore name fun base upper =>
    (upperDecides_overlay field).inPart base.documentFields upper.documentFields

theorem upperDecides_fieldMapping : UpperDecides merge (fieldMapping? name field) :=
  upperDecides_ofStore name fun base upper =>
    (upperDecides_overlay field).inPart base.fieldMappings upper.fieldMappings

end UpperDecides

end Layer

end Settings
end Sieve
