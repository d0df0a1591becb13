import Sieve.Dict
import Sieve.Settings.Error
import Sieve.Store.Page
import Sieve.Text.Blank

/-!
# Sieve.Settings

Settings as the program uses them. Every store has a table whose name is not blank, and page sizes
have been checked: see `QuerySettings.validate`.
-/

namespace Sieve

structure DatabaseSettings where
  url : String
  maxConnections : UInt32
  deriving DecidableEq, Repr

structure LoggingSettings where
  level : String
  json : Bool
  deriving DecidableEq, Repr

structure QuerySettings where
  defaultPageSize : UInt64
  maxPageSize : UInt64
  deriving DecidableEq, Repr

/-- What a store is made of; the kinds of document fields are still texts. -/
structure StoreSettings where
  table : String
  documentFields : Dict String
  fieldMappings : Dict String

structure Settings where
  database : DatabaseSettings
  logging : LoggingSettings
  query : QuerySettings
  stores : Dict StoreSettings

namespace QuerySettings

/-- Page sizes are positive, and the usual one is not above the greatest. -/
def validate (q : QuerySettings) : Except SettingsError Unit :=
  if q.defaultPageSize = 0 ∨ q.maxPageSize = 0 then .error .pageSizeZero
  else if q.maxPageSize < q.defaultPageSize then
    .error (.pageSizeExceeded q.defaultPageSize q.maxPageSize)
  else .ok ()

/-- The page with a number, counted from zero, of a size within bounds. -/
def page (q : QuerySettings) (number : UInt64) (limit : Option UInt64) : PageRequest :=
  .numbered number (PageRequest.clampLimit q.maxPageSize (limit.getD q.defaultPageSize))

end QuerySettings

namespace Settings

/-- The settings of a store. -/
def store? (s : Settings) (name : String) : Option StoreSettings := s.stores.get? name

end Settings

end Sieve
