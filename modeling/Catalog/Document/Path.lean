import Catalog.Json.Layout
import Catalog.Time.Timestamp

/-!
Dotted paths into documents. A path selects through objects only: a segment is always a name,
never a position in an array.
-/
namespace Catalog

open Json

/-- The names along a dotted path; there is always at least one. -/
def segments (path : String) : List String := Text.splitText '.' path

namespace Document

/-- The members of an object; other values have none. -/
def membersOf : Value → Members
  | .object members => members
  | _ => []

def select : Value → List String → Option Value
  | v, [] => some v
  | v, name :: rest =>
    match v.member? name with
    | some child => select child rest
    | none => none

def resolve (doc : Value) (path : String) : Option Value := select doc (segments path)

/-- Puts a value at the end of the names; whatever stands in the way becomes an object. -/
def put (value : Value) : Value → List String → Value
  | _, [] => value
  | doc, name :: rest =>
    let members := membersOf doc
    let child := (Members.get? name members).getD (.object [])
    .object (Members.insert name (put value child rest) members)

theorem select_put (value doc : Value) (names : List String) :
    select (put value doc names) names = some value := by
  induction names generalizing doc with
  | nil => simp [put, select]
  | cons name rest ih => simp [put, select, Value.member?, Members.get?_insert_self, ih]

def set (doc : Value) (path : String) (value : Value) : Value := put value doc (segments path)

end Document

/-- The instant that a value reads as: only texts read as dates. -/
def Json.Value.instant? : Value → Option Time.Instant
  | .text s => Time.Instant.parse? s
  | _ => none

end Catalog
