import Catalog.Store.File

/-!
Storage with a switch: requests go to the database while it is available, and to the file
otherwise. The database runs outside, and so does what hands out identities; the storage only knows
how to ask them.
-/
namespace Catalog.Store

open Json

inductive Backend where
  | database
  | file
  deriving DecidableEq, Repr

def Backend.name : Backend → String
  | .database => "database"
  | .file => "file"

/-- A database, by the states it can be in. What it makes of a request or a ping is its own affair:
it may fail, before or after it has done what was asked, and its answers may hang on anything that
went before. -/
class Service (δ : Type) where
  answer : {α : Type} → Moment → Request α → δ → Except Fault α × δ
  ping : δ → Except Fault Unit

/-- What stands in for a database where there is none: the documents it holds, whether it answers a
ping, and the names of the operations that fail. -/
structure StandIn where
  collection : File
  up : Bool
  broken : List String
  deriving DecidableEq, Repr

namespace StandIn

def answer (moment : Moment) (request : Request α) (db : StandIn) : Except Fault α × StandIn :=
  if db.broken.contains request.name then
    (.error (.invalidDocument (request.name ++ " disabled")), db)
  else
    let (a, collection) := db.collection.answer moment request
    (a, { db with collection := collection })

def ping (db : StandIn) : Except Fault Unit :=
  if db.up then .ok () else .error (.invalidDocument "database down")

instance : Service StandIn := ⟨answer, ping⟩

end StandIn

namespace Storage

/-- Identities count up from here, far from those that people give by hand. -/
def firstIdentity : Nat := 0x9e3779b97f4a7c15f39cc0605cedc835

/-- The identity with a given number: thirty-two hexadecimal digits. -/
def identity (n : Nat) : String := Text.hexText (firstIdentity + n)

end Storage

structure Storage (δ : Type := StandIn) where
  file : File
  database : Option δ
  /-- The latest word on whether the database is available. -/
  available : Bool
  /-- How many identities have been handed out. -/
  issued : Nat
  /-- The identities that are handed out, by their number. -/
  ids : Nat → String := Storage.identity

namespace Storage

variable {δ : Type}

def fileOnly (file : File) : Storage δ :=
  { file := file, database := none, available := false, issued := 0 }

/-- The database starts out unavailable. -/
def withDatabase (file : File) (db : δ) : Storage δ :=
  { file := file, database := some db, available := false, issued := 0 }

def active (s : Storage δ) : Backend :=
  if s.database.isSome && s.available then .database else .file

/-- Without a database the storage stays on the file. -/
def setAvailable (s : Storage δ) (available : Bool) : Storage δ :=
  { s with available := available && s.database.isSome }

variable [Service δ]

/-- Asks the database for a sign of life and switches accordingly. -/
def refresh (s : Storage δ) : Storage δ :=
  match s.database with
  | some db => s.setAvailable (Service.ping db).isOk
  | none => s

/-- A sign of life from the active side: the file always gives one. -/
def ping (s : Storage δ) : Except Fault Unit :=
  match s.active, s.database with
  | .database, some db => Service.ping db
  | _, _ => .ok ()

def answer (now : Time.Instant) (request : Request α) (s : Storage δ) :
    Except Fault α × Storage δ :=
  let moment : Moment := ⟨now, s.ids s.issued⟩
  match s.active, s.database with
  | .database, some db =>
    let (a, db) := Service.answer moment request db
    (a, { s with database := some db, issued := s.issued + 1 })
  | _, _ =>
    let (a, file) := s.file.answer moment request
    (a, { s with file := file, issued := s.issued + 1 })

end Storage

/-- Work on storage that may fail; what was stored before a failure stays. -/
abbrev Work (δ : Type) := ExceptT Fault (StateM (Storage δ))

abbrev Session := Work StandIn

namespace Session

variable {δ : Type}

/-- The first document a filter selects, in the order of insertion. -/
def findOneBy (ask : {α : Type} → Request α → Work δ α) (filter : Query.Filter) :
    Work δ (Option Value) := do
  let page ← ask (.find filter { limit := some 1 })
  pure page.items.head?

variable [Service δ]

def ask (now : Time.Instant) (request : Request α) : Work δ α := fun s => s.answer now request

def findOne (now : Time.Instant) (filter : Query.Filter) : Work δ (Option Value) :=
  findOneBy (ask now) filter

end Session

end Catalog.Store
