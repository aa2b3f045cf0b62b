import Catalog.Disk.Location
import Catalog.Store.Facade

/-!
How a collection file is rewritten. The new text goes to a draft beside the file, and the draft
takes the place of the file in one step at the end. The operating system may refuse any of the
steps; then the draft is removed and the request fails.
-/
namespace Catalog.Store

open Json

inductive Step where
  | makeDirectory
  | openDraft
  | fill
  | flush
  | sync
  | rename
  deriving DecidableEq, Repr

/-- The file, and the text of the draft beside it while there is one. -/
structure Desk where
  file : File
  draft : Option String

/-- What the operating system makes of one request. -/
structure Weather where
  /-- Why the file cannot be read, where that is not for what stands at its path. -/
  reading : Option String
  refused : Step → Option Disk.Fault
  /-- What a refused `fill` has written all the same. -/
  part : String
  /-- The draft's own part of its name. -/
  tag : String
  /-- Whether a draft cannot be removed. -/
  sticky : Bool

def Weather.calm : Weather := ⟨none, fun _ => none, "", "", false⟩

namespace Step

def preparing : List Step := [.makeDirectory, .openDraft, .fill, .flush, .sync]

def all : List Step := preparing ++ [.rename]

def draftPath (path tag : String) : String :=
  let name := (Disk.fileName? path).getD "collection"
  Disk.join (Disk.directory path) ("." ++ name ++ "." ++ tag ++ ".tmp")

/-- The path that a refused step is reported for. -/
def place (path tag : String) : Step → String
  | .makeDirectory => Disk.directory path
  | .rename => path
  | _ => draftPath path tag

def done (text : String) : Step → Desk → Desk
  | .openDraft, desk => { desk with draft := some "" }
  | .fill, desk => { desk with draft := some text }
  | .rename, ⟨file, some written⟩ => ⟨{ file with content := .text written }, none⟩
  | _, desk => desk

/-- What a refused step leaves. -/
def cut (part : String) : Step → Desk → Desk
  | .fill, desk => { desk with draft := some part }
  | _, desk => desk

end Step

namespace Weather

/-- Takes the steps one by one, up to the first that is refused. -/
def rewrite (weather : Weather) (text : String) : List Step → Desk → Except Fault Unit × Desk
  | [], desk => (.ok (), desk)
  | step :: rest, desk =>
    match weather.refused step with
    | some cause =>
      (.error (.io (step.place desk.file.path weather.tag) cause), step.cut weather.part desk)
    | none => weather.rewrite text rest (step.done text desk)

/-- After a failure the draft is removed. -/
def cleared (weather : Weather) (desk : Desk) : Desk :=
  if weather.sticky then desk else { desk with draft := none }

end Weather

namespace File

def persist (weather : Weather) (docs : List Value) (file : File) : Except Fault Unit × Desk :=
  match weather.rewrite (textOf docs) Step.all ⟨file, none⟩ with
  | (.ok (), desk) => (.ok (), desk)
  | (.error fault, desk) => (.error fault, weather.cleared desk)

def loadUnder (weather : Weather) (file : File) : Except Fault (List Value) :=
  match weather.reading with
  | some message => .error (.io file.path (.other message))
  | none => file.load

def answerUnder (weather : Weather) (moment : Moment) (request : Request α) (file : File) :
    Except Fault α × File :=
  match Collection.refusal? request with
  | some fault => (.error fault, file)
  | none =>
    match file.loadUnder weather with
    | .error fault => (.error fault, file)
    | .ok docs =>
      match Collection.answer moment request docs with
      | .error fault => (.error fault, file)
      | .ok (a, none) => (.ok a, file)
      | .ok (a, some docs) =>
        match file.persist weather docs with
        | (.error fault, desk) => (.error fault, desk.file)
        | (.ok (), desk) => (.ok a, desk.file)

end File

variable {δ : Type} [Service δ]

/-- The answer of the storage, under the weather of each request by its number. -/
def Storage.answerUnder (weather : Nat → Weather) (now : Time.Instant) (request : Request α)
    (s : Storage δ) : Except Fault α × Storage δ :=
  let moment : Moment := ⟨now, s.ids s.issued⟩
  match s.active, s.database with
  | .database, some db =>
    let (a, db) := Service.answer moment request db
    (a, { s with database := some db, issued := s.issued + 1 })
  | _, _ =>
    let (a, file) := s.file.answerUnder (weather s.issued) moment request
    (a, { s with file := file, issued := s.issued + 1 })

def Session.askUnder (weather : Nat → Weather) (now : Time.Instant) (request : Request α) :
    Work δ α := fun s => s.answerUnder weather now request

end Catalog.Store
