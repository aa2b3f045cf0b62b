import Catalog.Disk.Tree
import Catalog.Json.Reader
import Catalog.Sync.Report

/-!
The digest of the latest runs, made from the summaries they left behind.
-/
namespace Catalog.Sync

open Json

/-- A directory of run reports: its path, and the summary file of each directory in it. -/
structure Archive where
  path : String
  runs : List (String × Disk.Content)

inductive DigestFault where
  | unreadable (path : String)
  | unparsable (path : String)
  deriving DecidableEq, Repr

def DigestFault.message : DigestFault → String
  | .unreadable path => "reading " ++ path
  | .unparsable path => "parsing " ++ path

def summaryFile : String := "summary.json"
def briefFile : String := "brief.md"

/-- The archive at a path of a disk, if there is a directory. -/
def Archive.open (tree : Disk.Tree) (path : List String) (shown : String) :
    Except DigestFault Archive :=
  match tree.at? path with
  | .directory =>
    let directories := (tree.children path).filter fun name =>
      tree.at? (path ++ [name]) == .directory
    .ok ⟨shown, directories.map fun name => (name, tree.at? (path ++ [name, summaryFile]))⟩
  | _ => .error (.unreadable shown)

namespace Digest

/-- A scalar as shown: texts as they are. -/
def shown : Value → String
  | .text s => s
  | v => v.compact

def shownMember (v : Value) (name : String) : String :=
  match v.member? name with
  | some m => shown m
  | none => ""

def started? (summary : Value) : Option Time.Instant :=
  (summary.member? "started_at").bind Value.instant?

/-- Later runs first, those without a start last. -/
def isLater (a b : Value) : Bool :=
  match started? a, started? b with
  | some x, some y => y.lt x
  | some _, none => true
  | none, _ => false

/-- Puts a summary in front of all that are not later. -/
def place (summary : Value) : List Value → List Value
  | [] => [summary]
  | s :: rest => if isLater s summary then s :: place summary rest else summary :: s :: rest

def newestFirst (summaries : List Value) : List Value := summaries.foldr place []

/-- The lines of the members that look like a platform's counts. -/
def platformLines (summary : Value) : List String :=
  match summary with
  | .object members =>
    members.filterMap fun (name, counts) =>
      if (counts.member? "skipped").isSome then
        some (Report.platformLine name (shownMember counts "new") (shownMember counts "updated")
          (shownMember counts "skipped"))
      else none
  | _ => []

def sectionLines (summary : Value) : List String :=
  ["## Run `" ++ shownMember summary "run_id" ++ "`",
    "- started: " ++ shownMember summary "started_at",
    "- backend: " ++ shownMember summary "backend",
    "- success: " ++ shownMember summary "success",
    "- duration: " ++ shownMember summary "duration" ++ " ms"] ++
  (match summary.member? "error" with
    | some (.text e) => ["- error: " ++ e]
    | _ => []) ++
  platformLines summary ++
  (match (summary.member? "cleanup").bind fun c => c.member? "deactivated" with
    | some v => ["- deactivated: " ++ shown v]
    | none => []) ++
  [""]

/-- The summaries of an archive; directories without a readable one are passed over. -/
def summaries (path : String) : List (String × Disk.Content) → Except DigestFault (List Value)
  | [] => .ok []
  | (name, .text s) :: rest =>
    match Value.parse? s with
    | some summary => do .ok (summary :: (← summaries path rest))
    | none => .error (.unparsable (path ++ "/" ++ name ++ "/" ++ summaryFile))
  | _ :: rest => summaries path rest

/-- The digest of at least one run and at most as many as asked for. -/
def markdown (runs : Nat) (archive : Archive) : Except DigestFault String := do
  let found ← summaries archive.path archive.runs
  let shown := (newestFirst found).take (max runs 1)
  .ok (Report.joinLines
    (["# Opportunity Sync Report", ""] ++ shown.flatMap sectionLines))

end Digest

end Catalog.Sync
