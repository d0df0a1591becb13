import Sieve.Settings

/-!
# Sieve.Settings.Layer

A layer gives some of the settings. Layers are laid over one another: what the upper one gives
counts, and maps are merged key by key. `Layer.settings` fills the gaps of a layer and checks the
outcome.

* `Layer.merge_empty`, `Layer.empty_merge`: the empty layer changes nothing.
-/

namespace Sieve
namespace Settings

structure DatabaseLayer where
  url : Option String := none
  maxConnections : Option UInt32 := none

structure LoggingLayer where
  level : Option String := none
  json : Option Bool := none

structure QueryLayer where
  defaultPageSize : Option UInt64 := none
  maxPageSize : Option UInt64 := none

structure StoreLayer where
  table : Option String := none
  documentFields : Option (Dict String) := none
  fieldMappings : Option (Dict String) := none

structure Layer where
  database : Option DatabaseLayer := none
  logging : Option LoggingLayer := none
  query : Option QueryLayer := none
  stores : Option (Dict StoreLayer) := none

/-- A map laid over another. -/
def overlay (base upper : Dict String) : Dict String := base.merge (fun _ new => new) upper

namespace DatabaseLayer

def merge (base upper : DatabaseLayer) : DatabaseLayer where
  url := upper.url.or base.url
  maxConnections := upper.maxConnections.or base.maxConnections

def settings (l : DatabaseLayer) : DatabaseSettings where
  url := l.url.getD "postgres://localhost/keel"
  maxConnections := l.maxConnections.getD 10

end DatabaseLayer

namespace LoggingLayer

def merge (base upper : LoggingLayer) : LoggingLayer where
  level := upper.level.or base.level
  json := upper.json.or base.json

def settings (l : LoggingLayer) : LoggingSettings where
  level := l.level.getD "info"
  json := l.json.getD false

end LoggingLayer

namespace QueryLayer

def merge (base upper : QueryLayer) : QueryLayer where
  defaultPageSize := upper.defaultPageSize.or base.defaultPageSize
  maxPageSize := upper.maxPageSize.or base.maxPageSize

def settings (l : QueryLayer) : QuerySettings where
  defaultPageSize := l.defaultPageSize.getD PageRequest.usualLimit
  maxPageSize := l.maxPageSize.getD PageRequest.usualGreatest

end QueryLayer

namespace StoreLayer

def merge (base upper : StoreLayer) : StoreLayer where
  table := upper.table.or base.table
  documentFields := Option.merge overlay base.documentFields upper.documentFields
  fieldMappings := Option.merge overlay base.fieldMappings upper.fieldMappings

/-- The settings of a store; its table has the store's name unless the layer says otherwise. -/
def settings (name : String) (l : StoreLayer) : Except SettingsError StoreSettings :=
  let table := l.table.getD name
  if Text.trim table = "" then .error (.emptyTable name)
  else .ok ⟨table, l.documentFields.getD .empty, l.fieldMappings.getD .empty⟩

end StoreLayer

namespace Layer

def empty : Layer := {}

/-- What `upper` gives, and where it gives nothing what `base` gives. -/
def merge (base upper : Layer) : Layer where
  database := Option.merge DatabaseLayer.merge base.database upper.database
  logging := Option.merge LoggingLayer.merge base.logging upper.logging
  query := Option.merge QueryLayer.merge base.query upper.query
  stores := Option.merge (Dict.merge StoreLayer.merge) base.stores upper.stores

/-- The settings of stores, in the order of their names; the first fault counts. -/
def storeSettings (layers : Entries StoreLayer) : Except SettingsError (Entries StoreSettings) :=
  match layers with
  | [] => .ok []
  | (name, l) :: more => do
    let s ← l.settings name
    let rest ← storeSettings more
    return (name, s) :: rest

/-- The settings that a layer amounts to. Stores are checked before page sizes. -/
def settings (l : Layer) : Except SettingsError Settings := do
  let stores ← storeSettings (l.stores.getD .empty).entries
  let query := (l.query.getD {}).settings
  query.validate
  return {
    database := (l.database.getD {}).settings
    logging := (l.logging.getD {}).settings
    query := query
    stores := .ofPairs stores }

theorem merge_empty (l : Layer) : l.merge empty = l := by
  cases l; simp [merge, empty]

theorem empty_merge (l : Layer) : empty.merge l = l := by
  cases l; simp [merge, empty]

end Layer

/-- The settings without any layer. -/
def usual : Settings where
  database := DatabaseLayer.settings {}
  logging := LoggingLayer.settings {}
  query := QueryLayer.settings {}
  stores := .empty

end Settings
end Sieve
