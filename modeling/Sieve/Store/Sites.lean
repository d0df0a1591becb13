import Sieve.Store.Operation

/-!
# Sieve.Store.Sites

A table of sites to try stores on.
-/

namespace Sieve
namespace Sites

/-- The columns and what they hold. -/
def columns : List String :=
  ["id TEXT PRIMARY KEY", "name TEXT NOT NULL", "tenant_id TEXT NOT NULL",
    "tier INTEGER NOT NULL DEFAULT 1", "metadata JSONB", "vpas JSONB", "tags JSONB",
    "version BIGINT NOT NULL DEFAULT 1"]

/-- The statement that makes the table. -/
def definition (table : String) : String :=
  "\n\t\tCREATE TABLE " ++ table ++ " (\n\t\t\t" ++ ",\n\t\t\t".intercalate columns ++
    "\n\t\t)\n\t\t"

def request (table : String) : Request := ⟨.verbatim (definition table), []⟩

end Sites
end Sieve
