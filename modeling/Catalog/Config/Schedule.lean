import Catalog.Config.Cron
import Catalog.Config.Settings

/-!
The schedule of a service: when its runs are due, if it is to run at all.
-/
namespace Catalog.Config

/-- A text that does not say when a run is due. -/
structure ScheduleFault where
  text : String
  deriving DecidableEq, Repr

def ScheduleFault.message (f : ScheduleFault) : String :=
  "creating scheduler job for cron " ++ f.text

def dueAt (text : String) : Except ScheduleFault String :=
  if Cron.accepts text then .ok text else .error ⟨text⟩

/-- The times at which runs are due, or nothing if the service is switched off. -/
def Settings.schedule? (s : Settings) : Except ScheduleFault (Option (List String)) :=
  if s.scheduled then do
    let first ← dueAt s.schedules.1
    let second ← dueAt s.schedules.2
    .ok (some [first, second])
  else .ok none

end Catalog.Config
