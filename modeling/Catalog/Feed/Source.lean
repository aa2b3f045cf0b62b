import Catalog.Feed.Body
import Catalog.Feed.Retry
import Catalog.Feed.Sample

/-!
Sources of records: what a source yields, or why it yields nothing.
-/
namespace Catalog.Feed

open Json

structure Source where
  platform : String
  fetched : Except Fault (List Value)

namespace Source

def fixed (platform : String) (records : List Value) : Source := ⟨platform, .ok records⟩

/-- A source with neither an address nor a file. -/
def unconfigured (platform : String) : Source := ⟨platform, .error (.notConfigured platform)⟩

def captured (platform path : String) (content : Disk.Content) : Source :=
  ⟨platform,
    match content.read with
    | .ok text => ofText path text
    | .error cause => .error (.io path cause)⟩

def remote (platform : String) (attempts : Attempts) : Source :=
  ⟨platform, do
    let (url, body) ← attempts.result
    ofBytes url body⟩

/-- The records to reconcile: the source's own, or the sample, with the reason. -/
def recordsOrSample (s : Source) : List Value × Option String :=
  match s.fetched with
  | .ok records => (records, none)
  | .error fault => (fallback s.platform, some fault.message)

end Source

end Catalog.Feed
