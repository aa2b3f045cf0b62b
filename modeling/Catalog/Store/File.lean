import Catalog.Json.Reader
import Catalog.Store.Collection

/-!
A collection kept as one indented JSON array in a file. A missing or blank file is an empty
collection; every write replaces the whole text, and a request that fails changes nothing.
-/
namespace Catalog.Store

open Json

structure File where
  path : String
  content : Disk.Content
  deriving DecidableEq, Repr

namespace File

def documents? (text : String) : Option (List Value) :=
  if Text.isBlankText text then some [] else (Value.parse? text).bind Value.array?

def load (file : File) : Except Fault (List Value) :=
  match file.content.read with
  | .error .notFound => .ok []
  | .error cause => .error (.io file.path cause)
  | .ok s =>
    match documents? s with
    | some docs => .ok docs
    | none => .error (.corrupt file.path (Complaint.ofText s))

def textOf (docs : List Value) : String := (Value.array docs).indented

def store (file : File) (docs : List Value) : File := { file with content := .text (textOf docs) }

def answer (moment : Moment) (request : Request α) (file : File) : Except Fault α × File :=
  match Collection.refusal? request with
  | some fault => (.error fault, file)
  | none =>
    match file.load with
    | .error fault => (.error fault, file)
    | .ok docs =>
      match Collection.answer moment request docs with
      | .error fault => (.error fault, file)
      | .ok (a, none) => (.ok a, file)
      | .ok (a, some docs) => (.ok a, file.store docs)

end File

end Catalog.Store
