import Catalog.Document.Path

/-!
Documents of a collection: the names of their fields, their identity and the stamps that writing
puts on them.
-/
namespace Catalog

open Json

namespace Field

def id : String := "id"
def createdAt : String := "createdAt"
def updatedAt : String := "updatedAt"
def isActive : String := "is_active"
def title : String := "title"
def externalUrl : String := "external_url"
def platform : String := "source.platform"
def sourceId : String := "source.source_id"
def lastUpdated : String := "source.last_updated"
def startDate : String := "dates.start_date"
def endDate : String := "dates.end_date"
def deadline : String := "dates.registration_deadline"
def city : String := "location.city"
def registrationOpen : String := "registration.is_open"
def description : String := "description"
def skills : String := "skills_required"

/-- The fields that a patch never changes. -/
def fixed (name : String) : Bool := name == id || name == createdAt

end Field

namespace Document

/-- Why a value cannot be stored or merged: only objects can. -/
def refusal (v : Value) : String := "expected a JSON object, got " ++ v.compact

/-- The document's identity, if it is a text. -/
def id? (doc : Value) : Option String :=
  match doc.member? Field.id with
  | some (.text s) => some s
  | _ => none

def stampValue (now : Time.Instant) : Value := .text now.stamp

/-- Sets every member of a patch at the path its name spells, in the order of the names. Identity
and creation time are left alone. -/
def merge (doc : Value) (patch : Members) : Value :=
  patch.foldl (fun doc (path, value) => if Field.fixed path then doc else set doc path value) doc

/-- The document with a patch applied; none if the patch is not an object. -/
def patch? (doc patch : Value) : Option Value := patch.object?.map (merge doc)

def touch (doc : Value) (now : Time.Instant) : Value := set doc Field.updatedAt (stampValue now)

/-- A new document with identity and stamps; none if the data are not an object. -/
def stampNew? (data : Value) (id : String) (now : Time.Instant) : Option Value :=
  data.object?.map fun _ =>
    let doc := set data Field.id (.text id)
    let doc := set doc Field.createdAt (stampValue now)
    set doc Field.updatedAt (stampValue now)

end Document

end Catalog
