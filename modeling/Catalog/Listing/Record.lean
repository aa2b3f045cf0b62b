import Catalog.Listing.Shape
import Catalog.Query.Filter

/-!
Listings as feeds send them. Only what identifies a listing must have the right type; everything
else is read leniently.
-/
namespace Catalog

open Json Listing

namespace Listing

structure Origin where
  platform : String := ""
  sourceId : Option String := none
  deriving DecidableEq, Repr

def Origin.read (v : Value) : Except Mismatch Origin :=
  match v with
  | .object members => do
    let platform ← Value.memberOr Value.asText "" (Members.get? "platform" members)
    let sourceId ← Value.memberOr Value.asOptionalText none (Members.get? "source_id" members)
    .ok ⟨platform, sourceId⟩
  | .array items => do
    let platform ← Value.memberOr Value.asText "" items[0]?
    let sourceId ← Value.memberOr Value.asOptionalText none items[1]?
    Value.checkSurplus 2 items
    .ok ⟨platform, sourceId⟩
  | v => .error (.type v "struct SourceRef")

end Listing

structure Listing where
  title : String
  description : Lenient String
  organizer : Lenient String
  kind : Option (Lenient Kind)
  mode : Option (Lenient Mode)
  location : Lenient Location
  dates : Lenient Dates
  skills : Lenient (List String)
  externalUrl : String
  origin : Origin
  registration : Lenient Registration
  deriving Repr

namespace Listing

/-- The listing with the given identification, its other parts read from where they are found. -/
def assemble (title externalUrl : String) (origin : Origin) (part : String → Nat → Option Value) :
    Listing where
  title := title
  description := Lenient.readOr Value.text? "" (part "description" 1)
  organizer := Lenient.readOr Value.text? "" (part "organizer" 2)
  kind := Lenient.readOptional (choice Kind.ofName?) (part "type" 3)
  mode := Lenient.readOptional (choice Mode.ofName?) (part "mode" 4)
  location := Lenient.readOr Location.read? {} (part "location" 5)
  dates := Lenient.readOr Dates.read? {} (part "dates" 6)
  skills := Lenient.readOr texts? [] (part "skills_required" 7)
  externalUrl := externalUrl
  origin := origin
  registration := Lenient.readOr Registration.read? {} (part "registration" 10)

/-- Reads a listing from an object, or from an array that gives the parts by position. -/
def ofValue (v : Value) : Except Mismatch Listing :=
  match v with
  | .object members => do
    let externalUrl ← Value.memberOr Value.asText "" (Members.get? "external_url" members)
    let origin ← Value.memberOr Origin.read {} (Members.get? "source" members)
    let title ← Value.memberOr Value.asText "" (Members.get? "title" members)
    .ok (assemble title externalUrl origin fun name _ => Members.get? name members)
  | .array items => do
    let title ← Value.memberOr Value.asText "" items[0]?
    let externalUrl ← Value.memberOr Value.asText "" items[8]?
    let origin ← Value.memberOr Origin.read {} items[9]?
    Value.checkSurplus 11 items
    .ok (assemble title externalUrl origin fun _ i => items[i]?)
  | v => .error (.type v "struct RawOpportunity")

def displayKey (l : Listing) : String :=
  if Text.isBlankText l.title then l.externalUrl else l.title

def endDate? (l : Listing) : Option Time.Instant :=
  ((l.dates.known?.bind Dates.finish).bind Lenient.known?)

/-- A listing without a readable end stays active. -/
def isActiveAt (l : Listing) (now : Time.Instant) : Bool :=
  match l.endDate? with
  | some t => now.lt t
  | none => true

/-- The document that stores a listing as seen at the given time. -/
def toDocument (l : Listing) (now : Time.Instant) : Value :=
  .record (
    [("title", .text l.title), ("description", l.description.toValue .text),
      ("organizer", l.organizer.toValue .text)] ++
    optionalMember "type" (Lenient.toValue fun k => .text k.name) l.kind ++
    optionalMember "mode" (Lenient.toValue fun m => .text m.name) l.mode ++
    [("location", l.location.toValue Location.toValue), ("dates", l.dates.toValue Dates.toValue),
      ("skills_required", l.skills.toValue fun items => .array (items.map .text)),
      ("external_url", .text l.externalUrl),
      ("source", .record (("platform", .text l.origin.platform) ::
        (optionalMember "source_id" .text l.origin.sourceId ++
          [("last_updated", Document.stampValue now)]))),
      ("registration", l.registration.toValue Registration.toValue),
      (Field.isActive, .bool (l.isActiveAt now))])

/-- The text unless it is blank. -/
def solid? (s : String) : Option String := if Text.isBlankText s then none else some s

/-- The filters that may find the listing again, the surest first. Keys with a blank part are left
out. -/
def candidates (l : Listing) : List Query.Filter :=
  let platform := solid? l.origin.platform
  let byIdentity := match platform, l.origin.sourceId.bind solid? with
    | some platform, some id =>
      [[Query.Filter.eq Field.platform (.text platform), Query.Filter.eq Field.sourceId (.text id)]]
    | _, _ => []
  let byAddress := match solid? l.externalUrl with
    | some url => [[Query.Filter.eq Field.externalUrl (.text url)]]
    | none => []
  let byTitle := match solid? l.title, platform with
    | some title, some platform =>
      [[Query.Filter.eq Field.title (.text title), Query.Filter.eq Field.platform (.text platform)]]
    | _, _ => []
  byIdentity ++ byAddress ++ byTitle

/-- What best identifies a record that may not be readable: its title, else its address. -/
def recordKey (record : Value) : String :=
  let texts := [Field.title, Field.externalUrl].filterMap fun path =>
    (Document.resolve record path).bind Value.text?
  (texts.find? fun s => !Text.isBlankText s).getD "<unidentified>"

end Listing

end Catalog
