import Catalog.Command.Run
import Std.Time.DateTime.Timestamp

/-!
The command line. It lays the files that a command may read out as a world, carries the command out
there, and writes back what has changed.
-/
namespace Catalog.CommandLine

open Command

/-- The names of the variables that are looked up. -/
def variableNames : List String :=
  ["DATABASE_URL", "OPCAT_DATA_FILE", "OPCAT_COLLECTION", "OPCAT_SCHEDULER_ENABLED", "SYNC_CRON_1",
    "SYNC_CRON_2", "OPCAT_USER_AGENT", "OPCAT_HTTP_TIMEOUT_SECS", "OPCAT_FRESHNESS_WINDOW_SECS",
    "OPCAT_WORKSPACE_ROOT"]

def environment : IO Config.Environment := do
  let values ← variableNames.mapM fun name => do return (name, ← IO.getEnv name)
  return fun name => (values.lookup name).join

def currentTime : IO Time.Instant := do
  let nanos := (← Std.Time.Timestamp.now).toNanosecondsSinceUnixEpoch.toInt
  return ⟨nanos / Time.nanosPerSecond, (nanos % Time.nanosPerSecond).toNat⟩

def readText? (path : String) : IO (Option String) := do
  try return some (← IO.FS.readFile path)
  catch _ => return none

/-- The files of these paths that can be read. -/
def readFiles (paths : List String) : IO Disk.Tree := do
  let files ← paths.filterMapM fun path => do
    return (← readText? path).map fun text => (path, some text)
  return Disk.Tree.ofFiles files

def runName (n : Nat) : String := "run-" ++ toString n

def reportPath (s : Config.Settings) (n : Nat) (file : String) : String :=
  Disk.join (Disk.join s.reportsPath (runName n)) file

/-- How many runs have left a summary. -/
partial def countRuns (s : Config.Settings) (n : Nat) : IO Nat := do
  match ← readText? (reportPath s n Sync.summaryFile) with
  | some _ => countRuns s (n + 1)
  | none => return n

/-- No address can be reached from here. -/
def reply (address : Net.Address) (_ : Nat) : Feed.Reply :=
  .unreachable ("error sending request for url (" ++ address.text ++ ")")

def world : IO (World × Nat) := do
  let env ← environment
  let settings := Config.Settings.read env
  let sources := (← readText? settings.sourcesPath).getD ""
  let entries := match Config.Registry.parse sources with
    | .ok registry => registry
    | .error _ => []
  let runs ← countRuns settings 0
  let disk ← readFiles ([settings.dataFile, settings.sourcesPath] ++
    entries.filterMap (fun e => e.fixturePath.map settings.fixturePath) ++
    (List.range runs).map fun n => reportPath settings n Sync.summaryFile)
  let w : World :=
    { environment := env, now := ← currentTime, disk := disk, network := reply,
      issued := ← IO.rand 0 18446744073709551616, runId := runName runs }
  return (w, runs)

/-- Writes a file that the world holds, if there is one at the path. -/
def save (w : World) (directory path : String) : IO Unit := do
  match w.content path with
  | .text text =>
    IO.FS.createDirAll directory
    IO.FS.writeFile path text
  | _ => return

def directoryOf (path : String) : String :=
  let names := (Text.splitText '/' path).dropLast
  if names.isEmpty then "." else "/".intercalate names ++ "/"

/-- Carries out what the arguments spell; the exit code. -/
def carryOut (args : List String) : IO UInt32 := do
  let (before, runs) ← world
  let (ending, after) := before.runArguments args
  let settings := before.settings
  if after.content settings.dataFile != before.content settings.dataFile then
    save after (directoryOf settings.dataFile) settings.dataFile
  let directory := Disk.join settings.reportsPath (runName runs)
  for file in [Sync.summaryFile, Sync.briefFile] do
    save after directory (Disk.join directory file)
  IO.print ending.output
  match ending.complaint? with
  | some text => IO.eprintln text
  | none => pure ()
  return UInt32.ofNat ending.code

end Catalog.CommandLine

def main (args : List String) : IO UInt32 := Catalog.CommandLine.carryOut args
