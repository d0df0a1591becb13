import Sieve.Settings
import Sieve.Sql.Catalog
import Sieve.Store

/-!
# Sieve.Settings.Catalog

The catalog and the document store that the settings of a store amount to. Document fields are
registered in the order of their names, then mappings in the order of theirs; of names that differ
only in the case of ASCII letters the last one counts.
-/

namespace Sieve

/-- A document field whose kind is none. -/
structure CatalogFault where
  table : String
  field : String
  kind : String

def CatalogFault.message (f : CatalogFault) : String :=
  "store table " ++ f.table ++ ": field " ++ f.field ++ ": " ++
    Sql.DocumentKind.unknownMessage f.kind

namespace StoreSettings

/-- Registers document fields one after the other. -/
def withDocuments (table : String) (c : Sql.Catalog) :
    Entries String → Except CatalogFault Sql.Catalog
  | [] => .ok c
  | (field, name) :: more =>
    match Sql.DocumentKind.read? name with
    | none => .error ⟨table, field, name⟩
    | some kind => withDocuments table (c.withDocument field kind) more

def withMappings (c : Sql.Catalog) (mappings : Entries String) : Sql.Catalog :=
  mappings.foldl (fun c (field, column) => c.withMapping field column) c

def catalog (s : StoreSettings) : Except CatalogFault Sql.Catalog :=
  (withDocuments s.table .empty s.documentFields.entries).map fun c =>
    withMappings c s.fieldMappings.entries

/-- The rows of the store's table as documents. -/
def documentStore (s : StoreSettings) (q : QuerySettings) : Except CatalogFault (Store Json) :=
  s.catalog.map fun c => .documents s.table c q.maxPageSize

end StoreSettings

end Sieve
