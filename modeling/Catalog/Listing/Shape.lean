import Catalog.Document.Basic
import Catalog.Json.Mismatch

/-!
The parts of a listing. A part is known when it has the expected shape; otherwise it is kept as it
was sent, so that nothing a feed says is lost.
-/
namespace Catalog.Listing

open Json

inductive Lenient (α : Type) where
  | known (a : α)
  | asSent (v : Value)
  deriving Repr

namespace Lenient

def known? : Lenient α → Option α
  | .known a => some a
  | .asSent _ => none

/-- Known if the value can be read, otherwise as sent. -/
def read (shape : Value → Option α) (v : Value) : Lenient α :=
  match shape v with
  | some a => .known a
  | none => .asSent v

/-- A missing part is known to be empty. -/
def readOr (shape : Value → Option α) (default : α) : Option Value → Lenient α
  | some v => read shape v
  | none => .known default

/-- Null and missing parts are absent. -/
def readOptional (shape : Value → Option α) : Option Value → Option (Lenient α)
  | none => none
  | some .null => none
  | some v => some (read shape v)

def toValue (write : α → Value) : Lenient α → Value
  | .known a => write a
  | .asSent v => v

end Lenient

inductive Kind where
  | hackathon | internship | workshop
  deriving DecidableEq, Repr

namespace Kind

def name : Kind → String
  | .hackathon => "hackathon"
  | .internship => "internship"
  | .workshop => "workshop"

def ofName? (name : String) : Option Kind :=
  [Kind.hackathon, .internship, .workshop].find? fun k => k.name == name

end Kind

inductive Mode where
  | online | offline | hybrid
  deriving DecidableEq, Repr

namespace Mode

def name : Mode → String
  | .online => "online"
  | .offline => "offline"
  | .hybrid => "hybrid"

def ofName? (name : String) : Option Mode :=
  [Mode.online, .offline, .hybrid].find? fun m => m.name == name

end Mode

/-- A choice among names: the name itself, or an object that gives it null. -/
def choice (ofName? : String → Option α) : Value → Option α
  | .text s => ofName? s
  | .object [(name, .null)] => ofName? name
  | _ => none

def texts? : Value → Option (List String)
  | .array items => items.mapM Value.text?
  | _ => none

structure Location where
  city : Option String := none
  state : Option String := none
  country : Option String := none
  venue : Option String := none
  deriving DecidableEq, Repr

structure Dates where
  start : Option (Lenient Time.Instant) := none
  finish : Option (Lenient Time.Instant) := none
  deadline : Option (Lenient Time.Instant) := none
  deriving Repr

structure Registration where
  isOpen : Option Bool := none
  url : Option String := none
  deriving DecidableEq, Repr

/-- Where the parts of a shape are found: under their names in an object, or by position in an
array that has no more elements than the shape has parts. -/
def part? (count : Nat) (v : Value) : Option (String → Nat → Option Value) :=
  match v with
  | .object members => some fun name _ => Members.get? name members
  | .array items => if items.length ≤ count then some fun _ i => items[i]? else none
  | _ => none

def optionalText? : Option Value → Option (Option String)
  | none => some none
  | some .null => some none
  | some (.text s) => some (some s)
  | some _ => none

def optionalFlag? : Option Value → Option (Option Bool)
  | none => some none
  | some .null => some none
  | some (.bool b) => some (some b)
  | some _ => none

def Location.read? (v : Value) : Option Location := do
  let part ← part? 4 v
  let city ← optionalText? (part "city" 0)
  let state ← optionalText? (part "state" 1)
  let country ← optionalText? (part "country" 2)
  let venue ← optionalText? (part "venue" 3)
  some ⟨city, state, country, venue⟩

def Dates.read? (v : Value) : Option Dates := do
  let part ← part? 3 v
  some ⟨Lenient.readOptional Value.instant? (part "start_date" 0),
    Lenient.readOptional Value.instant? (part "end_date" 1),
    Lenient.readOptional Value.instant? (part "registration_deadline" 2)⟩

def Registration.read? (v : Value) : Option Registration := do
  let part ← part? 2 v
  let isOpen ← optionalFlag? (part "is_open" 0)
  let url ← optionalText? (part "url" 1)
  some ⟨isOpen, url⟩

/-- A member that is left out when there is nothing to say. -/
def optionalMember (name : String) (write : α → Value) (a : Option α) : List (String × Value) :=
  match a with
  | some a => [(name, write a)]
  | none => []

def Location.toValue (l : Location) : Value :=
  .record (optionalMember "city" .text l.city ++ optionalMember "state" .text l.state ++
    optionalMember "country" .text l.country ++ optionalMember "venue" .text l.venue)

def Dates.toValue (d : Dates) : Value :=
  let write := Lenient.toValue Document.stampValue
  .record (optionalMember "start_date" write d.start ++ optionalMember "end_date" write d.finish ++
    optionalMember "registration_deadline" write d.deadline)

def Registration.toValue (r : Registration) : Value :=
  .record (optionalMember "is_open" .bool r.isOpen ++ optionalMember "url" .text r.url)

end Catalog.Listing
