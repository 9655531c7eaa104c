/-!
The causes for which a search, a filter or a stored search fails.
-/

namespace ModelCatalog

inductive SearchError where
  | storage (message : String)
  /-- Stored text that should hold filters does not. -/
  | serialization
  | io (message : String)
  | unknownFilter (name : String)
  | invalidFilterValue (key value : String)
  | savedSearchNotFound (name : String)
  deriving DecidableEq, Repr

namespace SearchError

def code : SearchError → String
  | storage _ => "storage"
  | serialization => "serialization"
  | io _ => "io"
  | unknownFilter _ => "unknown_filter"
  | invalidFilterValue _ _ => "invalid_filter"
  | savedSearchNotFound _ => "not_found"

def message : SearchError → String
  | storage text => "storage error: " ++ text
  | serialization => "serialization error"
  | io text => "IO error: " ++ text
  | unknownFilter name => "unknown filter: " ++ name
  | invalidFilterValue key value => "invalid value for filter " ++ key ++ ": " ++ value
  | savedSearchNotFound name => "saved search not found: " ++ name

end SearchError

end ModelCatalog
