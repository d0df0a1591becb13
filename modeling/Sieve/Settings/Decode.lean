import Sieve.Settings.Layer
import Sieve.Toml.Reader

/-!
# Sieve.Settings.Decode

Layers from TOML. A section is a table, an array of its settings in order, or a date, which counts
as a table without any setting. Keys without a meaning are passed over; a setting of the wrong type
spoils the whole layer.
-/

namespace Sieve
namespace Settings

-- Powers are the core ones, also in a context with algebraic structures.
attribute [local instance (high)] instPowNat

/-- The key under which a date stands when it is read as a table. -/
def momentKey : String := "$__toml_private_datetime"

/-- A setting that may be missing; one of the wrong type is a fault. -/
def setting? (read : Toml → Option α) (v : Option Toml) : Option (Option α) :=
  match v with
  | none => some none
  | some t => (read t).map some

def count32? (t : Toml) : Option UInt32 :=
  t.count?.bind fun n => if n < 2 ^ (32 : Nat) then some (UInt32.ofNat n) else none

def count64? (t : Toml) : Option UInt64 := t.count?.map UInt64.ofNat

/-- The settings of a section by their names, wherever they stand in it. -/
def settingsOf? (names : List String) : Toml → Option (List (Option Toml))
  | .table entries => some (names.map fun name => Entries.get? name entries)
  | .array items => some ((List.range names.length).map fun i => items[i]?)
  | .moment _ => some (names.map fun _ => none)
  | _ => none

def databaseLayer? (t : Toml) : Option DatabaseLayer := do
  let [url, maxConnections] ← settingsOf? ["url", "max_connections"] t | none
  return {
    url := ← setting? Toml.text? url
    maxConnections := ← setting? count32? maxConnections }

/-- The settings of logging; an array has to hold both of them. -/
def loggingLayer? (t : Toml) : Option LoggingLayer := do
  if let .array items := t then
    if items.length < 2 then none
  let [level, json] ← settingsOf? ["level", "json"] t | none
  return {
    level := ← setting? Toml.text? level
    json := ← setting? Toml.bool? json }

def queryLayer? (t : Toml) : Option QueryLayer := do
  let [usual, greatest] ← settingsOf? ["default_page_size", "max_page_size"] t | none
  return {
    defaultPageSize := ← setting? count64? usual
    maxPageSize := ← setting? count64? greatest }

/-- Reads the value of every entry. -/
def readValues? (read : Toml → Option α) : Entries Toml → Option (Entries α)
  | [] => some []
  | (key, v) :: more =>
    match read v, readValues? read more with
    | some a, some rest => some ((key, a) :: rest)
    | _, _ => none

/-- A map whose values are texts. -/
def textMap? : Toml → Option (Dict String)
  | .table entries => (readValues? Toml.text? entries).map Dict.ofPairs
  | .moment s => some (.ofPairs [(momentKey, s)])
  | _ => none

def storeLayer? (t : Toml) : Option StoreLayer := do
  let names := ["table", "document_fields", "field_mappings"]
  let [table, fields, mappings] ← settingsOf? names t | none
  return {
    table := ← setting? Toml.text? table
    documentFields := ← setting? textMap? fields
    fieldMappings := ← setting? textMap? mappings }

def storeLayers? : Toml → Option (Dict StoreLayer)
  | .table entries => (readValues? storeLayer? entries).map Dict.ofPairs
  | _ => none

/-- The layer that the table of a whole document gives. -/
def layer? (entries : Entries Toml) : Option Layer := do
  return {
    database := ← setting? databaseLayer? (entries.get? "database")
    logging := ← setting? loggingLayer? (entries.get? "logging")
    query := ← setting? queryLayer? (entries.get? "query")
    stores := ← setting? storeLayers? (entries.get? "stores") }

/-- The layer that a TOML text gives, if it gives one. -/
def readLayer? (s : String) : Option Layer := (Toml.read? s).bind layer?

end Settings
end Sieve
