import Catalog.Disk.Location
import Catalog.Sync.Freshness

/-!
Settings from the environment. A variable that is unset, or that does not read as what it should
be, leaves the default in place.
-/
namespace Catalog.Config

/-- The values of the variables that are set. -/
abbrev Environment := String → Option String

structure Settings where
  databaseUrl : Option String := none
  dataFile : String := "./data/opportunities.json"
  collection : String := "opportunities"
  scheduled : Bool := false
  /-- The two times of the day at which a run is due. -/
  schedules : String × String := ("0 0 6 * * *", "0 0 18 * * *")
  userAgent : String := "opcat-bot/0.1"
  /-- In seconds. -/
  timeout : Nat := 20
  window : Sync.Window := .standard
  workspace : String := "."
  deriving Repr

namespace Settings

/-- The words that switch something on. -/
def affirmations : List String := ["1", "true", "TRUE", "True"]

def read (env : Environment) : Settings :=
  let default : Settings := {}
  { databaseUrl := (env "DATABASE_URL").filter fun v => !Text.isBlankText v,
    dataFile := (env "OPCAT_DATA_FILE").getD default.dataFile,
    collection := (env "OPCAT_COLLECTION").getD default.collection,
    scheduled := (env "OPCAT_SCHEDULER_ENABLED").any affirmations.contains,
    schedules := ((env "SYNC_CRON_1").getD default.schedules.1,
      (env "SYNC_CRON_2").getD default.schedules.2),
    userAgent := (env "OPCAT_USER_AGENT").getD default.userAgent,
    timeout := ((env "OPCAT_HTTP_TIMEOUT_SECS").bind fun v =>
      Text.unsigned? v.toList).getD default.timeout,
    window := (((env "OPCAT_FRESHNESS_WINDOW_SECS").bind fun v =>
      Text.signed? v.toList).map Sync.Window.mk).getD default.window,
    workspace := (env "OPCAT_WORKSPACE_ROOT").getD default.workspace }

def sourcesPath (s : Settings) : String := Disk.join s.workspace "sources.yaml"

def reportsPath (s : Settings) : String := Disk.join s.workspace "reports"

/-- Captured feeds are found from the workspace. -/
def fixturePath (s : Settings) (path : String) : String := Disk.join s.workspace path

end Settings

end Catalog.Config
