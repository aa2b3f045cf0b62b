import Catalog.Json.Value
import Catalog.Text.Case

/-!
The bundled sample that stands in for a source that yields nothing.
-/
namespace Catalog.Feed

open Json

def sampleRecord (title description organizer kind mode : String) (location : List (String × Value))
    (dates : List (String × Value)) (skills : List String) (url platform id : String)
    (registration : List (String × Value)) : Value :=
  .record [("title", .text title), ("description", .text description),
    ("organizer", .text organizer), ("type", .text kind), ("mode", .text mode),
    ("location", .record location), ("dates", .record dates),
    ("skills_required", .array (skills.map .text)), ("external_url", .text url),
    ("source", .record [("platform", .text platform), ("source_id", .text id)]),
    ("registration", .record registration)]

def sample : List Value :=
  [sampleRecord "Global AI Hackathon 2026"
    "48-hour hackathon on applied machine learning, open to students worldwide."
    "MLH" "hackathon" "online" []
    [("start_date", .text "2026-11-14T09:00:00Z"), ("end_date", .text "2026-11-16T18:00:00Z"),
      ("registration_deadline", .text "2026-11-10T23:59:59Z")]
    ["Python", "Machine Learning"]
    "https://events.mlh.io/events/global-ai-hackathon-2026" "MLH" "mlh-global-ai-2026"
    [("is_open", .bool true),
      ("url", .text "https://events.mlh.io/events/global-ai-hackathon-2026/register")],
   sampleRecord "HackBerlin Winter Edition"
    "In-person weekend hackathon with hardware and sustainability tracks."
    "MLH" "hackathon" "offline"
    [("city", .text "Berlin"), ("country", .text "Germany"),
      ("venue", .text "Factory Görlitzer Park")]
    [("start_date", .text "2026-12-05T10:00:00+01:00"),
      ("end_date", .text "2026-12-06T20:00:00+01:00")]
    ["JavaScript", "Hardware"]
    "https://events.mlh.io/events/hackberlin-winter-2026" "MLH" "mlh-hackberlin-winter-2026"
    [("is_open", .bool true)],
   sampleRecord "Open Source Contributor Workshop"
    "Hands-on introduction to contributing to large open source projects."
    "MLH Fellowship" "workshop" "hybrid"
    [("city", .text "Bengaluru"), ("country", .text "India")]
    [("start_date", .text "2027-01-20"), ("end_date", .text "2027-01-21")]
    ["Git"]
    "https://fellowship.mlh.io/workshops/open-source-2027" "MLH" "mlh-oss-workshop-2027"
    [("is_open", .bool false)],
   sampleRecord "Local Hack Day: Build"
    "Community build day held across local hubs."
    "MLH" "hackathon" "hybrid"
    [("city", .text "Toronto"), ("country", .text "Canada")]
    [("start_date", .text "2026-01-10T14:00:00Z"), ("end_date", .text "2026-01-11T02:00:00Z")]
    []
    "https://localhackday.mlh.io/build-2026" "MLH" "mlh-lhd-build-2026"
    [("is_open", .bool false)]]

def platformOf? (record : Value) : Option String :=
  ((record.member? "source").bind fun s => s.member? "platform").bind Value.text?

/-- The record as if it came from another platform. -/
def restamp (platform : String) (record : Value) : Value :=
  match record, record.member? "source" with
  | .object members, some (.object source) =>
    .object (Members.insert "source"
      (.object (Members.insert "platform" (.text platform) source)) members)
  | record, _ => record

def isFrom (platform : String) (record : Value) : Bool :=
  match platformOf? record with
  | some p => Text.asciiLowered p == Text.asciiLowered platform
  | none => false

/-- The sample of a platform: its own records, or all of them restamped if it has none. -/
def fallback (platform : String) : List Value :=
  let own := sample.filter (isFrom platform)
  if own.isEmpty then sample.map (restamp platform) else own

end Catalog.Feed
