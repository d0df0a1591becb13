import Sieve.File

/-!
# Sieve.Settings.Error

Why no settings could be loaded, and the text that says so.
-/

namespace Sieve

inductive SettingsError where
  | notCount (key value : String) (bits : Nat)
  | emptyTable (store : String)
  | pageSizeZero
  | pageSizeExceeded (usual greatest : UInt64)
  | unreadableFile (path : String) (fault : FileFault)
  /-- The file is no TOML, or a setting in it has the wrong type. -/
  | malformedFile (path : String)

namespace SettingsError

def message : SettingsError → String
  | .notCount key value bits =>
    "Invalid value for " ++ key ++ ": invalid u" ++ toString bits ++ " value '" ++ value ++ "'"
  | .emptyTable store => "Invalid value for stores." ++ store ++ ".table: table name is empty"
  | .pageSizeZero => "Validation error: query page sizes must be greater than zero"
  | .pageSizeExceeded usual greatest =>
    "Validation error: query.default_page_size (" ++ toString usual.toNat ++
      ") exceeds query.max_page_size (" ++ toString greatest.toNat ++ ")"
  | .unreadableFile path fault => "Failed to read config file " ++ path ++ ": " ++ fault.message
  | .malformedFile path => "Failed to parse TOML config at " ++ path

/-- The error and what is behind it, from the outside in. -/
def texts : SettingsError → List String
  | .unreadableFile path fault => [(unreadableFile path fault).message, fault.message]
  | e => [e.message]

end SettingsError

end Sieve
