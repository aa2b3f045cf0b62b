import Catalog.Config.Schedule
import Catalog.Net.Address
import Catalog.Query.Fault
import Catalog.Store.Fault
import Catalog.Sync.Digest

/-!
Why a command fails, in the words shown to its user.
-/
namespace Catalog.Command

inductive Fault where
  | unreadSources (path : String)
  | unparsedSources (path : String)
  | invalidSources (path : String)
  | databaseAddress
  | clientName
  | filterText
  | query (fault : Query.Fault)
  | storage (fault : Store.Fault)
  | digest (fault : Sync.DigestFault)
  | schedule (fault : Config.ScheduleFault)
  | notScheduled
  | noDatabase
  | migration (reason : String)
  | run (reason : String)
  deriving Repr

def Fault.message : Fault → String
  | .unreadSources path => "reading " ++ path
  | .unparsedSources path => "parsing " ++ path
  | .invalidSources path => "validating " ++ path
  | .databaseAddress => "configuring database collection"
  | .clientName => "building feed http client"
  | .filterText => "filter is not valid JSON"
  | .query fault => fault.message
  | .storage fault => fault.message
  | .digest fault => fault.message
  | .schedule fault => fault.message
  | .notScheduled => "scheduler disabled; set OPCAT_SCHEDULER_ENABLED=1"
  | .noDatabase => "DATABASE_URL is not set"
  | .migration reason => "database error: " ++ reason
  | .run reason => "sync run failed: " ++ reason

inductive Ending where
  | done (output : String)
  | failed (output : String) (fault : Fault)
  /-- A freshness window that no duration can hold. -/
  | aborted
  /-- The arguments spell no command. -/
  | misused
  /-- The service is up, with runs due at these times. -/
  | serving (times : List String)

namespace Ending

def code : Ending → Nat
  | .done _ => 0
  | .failed _ _ => 1
  | .aborted => 101
  | .misused => 2
  | .serving _ => 0

def output : Ending → String
  | .done output => output
  | .failed output _ => output
  | _ => ""

def complaint? : Ending → Option String
  | .failed _ fault => some ("Error: " ++ fault.message)
  | _ => none

end Ending

end Catalog.Command
