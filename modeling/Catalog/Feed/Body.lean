import Catalog.Feed.Fault
import Catalog.Json.Reader

/-!
The body of a feed: a bare array of records, or one wrapped in an object.
-/
namespace Catalog.Feed

open Json

/-- The names under which an object may hold the records, in the order they are tried. -/
def wrappers : List String := ["opportunities", "data"]

def records (origin : String) (body : Value) : Except Fault (List Value) :=
  match body with
  | .array items => .ok items
  | body =>
    match wrappers.findSome? fun name => (body.member? name).bind Value.array? with
    | some items => .ok items
    | none => .error (.shape origin)

def ofText (origin text : String) : Except Fault (List Value) :=
  match Value.parse? text with
  | some body => records origin body
  | none => .error (.parse origin)

def ofBytes (origin : String) (bytes : List UInt8) : Except Fault (List Value) :=
  match Value.ofBytes? bytes with
  | some body => records origin body
  | none => .error (.parse origin)

end Catalog.Feed
