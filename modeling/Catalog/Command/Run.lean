import Catalog.Command.Arguments
import Catalog.Command.Fault
import Catalog.Config.Registry
import Catalog.Disk.Tree
import Catalog.Pattern.Size
import Catalog.Query.FilterReader
import Catalog.Sync.Run

/-!
Commands. A command works on a world that holds all it may look at: the environment, the time, the
disk and the network. What it changes is the disk, and how many identities have been handed out.
-/
namespace Catalog.Command

open Json

structure World where
  environment : Config.Environment
  now : Time.Instant
  disk : Disk.Tree
  /-- The replies to the attempts to fetch an address. -/
  network : Net.Address → Nat → Feed.Reply
  issued : Nat
  runId : String

namespace World

def settings (w : World) : Config.Settings := .read w.environment

def content (w : World) (path : String) : Disk.Content := w.disk.at? (Disk.Tree.names path)

/-- The storage at the start of a command. A database that is configured is out of reach until it
answers. -/
def storage (w : World) : Except Fault Store.Storage :=
  let path := w.settings.dataFile
  let file : Store.File := ⟨path, w.content path⟩
  match w.settings.databaseUrl with
  | none => .ok { Store.Storage.fileOnly file with issued := w.issued }
  | some url =>
    match Net.Address.read url with
    | .error _ => .error .databaseAddress
    | .ok _ =>
      let database : Store.StandIn := ⟨⟨w.settings.collection, .missing⟩, false, []⟩
      .ok { Store.Storage.withDatabase file database with issued := w.issued }

/-- The world after work on its storage. -/
def keep (w : World) (s : Store.Storage) : World :=
  let disk := match s.file.content with
    | .text text => w.disk.write (Disk.Tree.names s.file.path) text
    | _ => w.disk
  { w with disk := disk, issued := s.issued }

def registry (w : World) : Except Fault Config.Registry :=
  let path := w.settings.sourcesPath
  match (w.content path).read with
  | .error _ => .error (.unreadSources path)
  | .ok text =>
    match Config.Registry.parse text with
    | .ok registry => .ok registry
    | .error .unreadable => .error (.unparsedSources path)
    | .error (.clash _) => .error (.invalidSources path)

def fetch (w : World) (url : String) : Feed.Attempts :=
  let reply (attempt : Nat) : Feed.Reply :=
    match Net.Address.read url with
    | .error _ => .broken "builder error"
    | .ok address =>
      if address.isWeb then w.network address attempt
      else .broken ("builder error for url (" ++ address.text ++ ")")
  Feed.request .standard w.now url reply

/-- The source of an entry: its feed, else its captured feed, else none at all. -/
def source (w : World) (e : Config.Entry) : Feed.Source :=
  match e.feedUrl, e.fixturePath with
  | some url, _ => .remote e.platform (w.fetch url)
  | none, some path =>
    let path := w.settings.fixturePath path
    .captured e.platform path (w.content path)
  | none, none => .unconfigured e.platform

def pipeline (w : World) : Except Fault (Store.Storage × List Feed.Source) := do
  let storage ← w.storage
  let registry ← w.registry
  if Feed.isAgentName w.settings.userAgent then
    .ok (storage, registry.enabled.map w.source)
  else .error .clientName

/-- Leaves the summary and the brief of a run behind, where there is room for them. -/
def file (w : World) (report : Sync.Report) : World :=
  let directory := Disk.Tree.names w.settings.reportsPath ++ [report.runId]
  let disk := w.disk.write (directory ++ [Sync.summaryFile]) report.summaryText
  { w with disk := disk.write (directory ++ [Sync.briefFile]) report.brief }

end World

def line (text : String) : String := text ++ "\n"

def shown (v : Value) : String := line v.indented

def filterOf (text : String) : Except Fault Query.Filter :=
  match Value.parse? text with
  | none => .error .filterText
  | some v => (Query.Filter.ofJson v).mapError .query

def pageValue (page : Query.Page) : Value :=
  .record [("total", .ofNat page.total), ("items", .array page.items)]

namespace World

/-- A command that may fail before it changes anything. -/
def attempt (w : World) (made : Except Fault (Ending × World)) : Ending × World :=
  match made with
  | .ok result => result
  | .error fault => (.failed "" fault, w)

/-- Work on the storage, whichever side is available. -/
def work (w : World) (session : Store.Session α) (output : α → String) :
    Except Fault (Ending × World) := do
  let storage ← w.storage
  let (answer, storage) := session.run storage.refresh
  .ok (match answer with
    | .ok a => .done (output a)
    | .error fault => .failed "" (.storage fault), w.keep storage)

def sync (w : World) : Except Fault (Ending × World) := do
  let (storage, sources) ← w.pipeline
  match Sync.run w.runId w.now w.settings.window sources storage with
  | .error _ => .ok (.aborted, w)
  | .ok (r, storage) =>
    let output := line r.summaryText
    let ending : Ending :=
      if r.success then .done output else .failed output (.run (r.error.getD ""))
    .ok (ending, (w.keep storage).file r)

def find (w : World) (filter : String) (sorting : Option String) (page : Nat)
    (limit : Option Nat) : Except Fault (Ending × World) := do
  let filter ← filterOf filter
  let ranking ← match sorting with
    | some text => (Query.Ranking.parse text).mapError .query
    | none => .ok []
  w.work (Store.Session.ask w.now (.find filter ⟨page, limit, ranking⟩)) fun page =>
    shown (pageValue page)

def count (w : World) (filter : String) : Except Fault (Ending × World) := do
  let filter ← filterOf filter
  w.work (Store.Session.ask w.now (.count filter)) fun n => line (toString n)

def sweep (w : World) : Except Fault (Ending × World) :=
  w.work (Sync.sweep w.now w.now) fun n => shown (.record [("deactivated", .ofNat n)])

def report (w : World) (runs : Nat) : Except Fault (Ending × World) :=
  let path := w.settings.reportsPath
  let made : Except Sync.DigestFault String := do
    Sync.Digest.markdown runs (← Sync.Archive.open w.disk (Disk.Tree.names path) path)
  match made with
  | .ok text => .ok (.done (line text), w)
  | .error fault => .error (.digest fault)

/-- No database is in reach. -/
def migrate (w : World) : Except Fault (Ending × World) :=
  match w.settings.databaseUrl with
  | none => .error .noDatabase
  | some url =>
    match Net.Address.read url with
    | .error fault => .error (.migration ("error with configuration: " ++ fault.message))
    | .ok _ => .error (.migration "pool timed out while waiting for an open connection")

def schedule (w : World) : Except Fault (Ending × World) := do
  let _ ← w.pipeline
  match ← w.settings.schedule?.mapError .schedule with
  | some times => .ok (.serving times, w)
  | none => .error .notScheduled

def run (w : World) : Command → Ending × World
  | .sync => w.attempt w.sync
  | .sweep => w.attempt w.sweep
  | .find filter sorting page limit => w.attempt (w.find filter sorting page limit)
  | .count filter => w.attempt (w.count filter)
  | .report runs => w.attempt (w.report runs)
  | .migrate => w.attempt w.migrate
  | .schedule => w.attempt w.schedule

def runArguments (w : World) (args : List String) : Ending × World :=
  match read? args with
  | some command => w.run command
  | none => (.misused, w)

end World

end Catalog.Command
