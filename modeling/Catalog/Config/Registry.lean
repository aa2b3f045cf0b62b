import Catalog.Sync.Report
import Catalog.Yaml.Node

/-!
The registry of sources: which feeds are to be synchronised, and where they are found.
-/
namespace Catalog.Config

open Yaml

structure Entry where
  platform : String
  displayName : String
  enabled : Bool := true
  feedUrl : Option String := none
  fixturePath : Option String := none
  notes : Option String := none
  deriving DecidableEq, Repr

abbrev Registry := List Entry

/-- Why a registry is refused: it cannot be read, or a platform has the name of a fixed field of a
run's summary. -/
inductive RegistryFault where
  | unreadable
  | clash (platform : String)
  deriving DecidableEq, Repr

def RegistryFault.message : RegistryFault → String
  | .unreadable => "parsing source registry"
  | .clash platform => "platform `" ++ platform ++ "` clashes with a run summary field"

/-- Every scalar reads as a text. -/
def text? : Node → Option String
  | .scalar s _ _ _ => some s
  | _ => none

def nullWords : List String := ["", "~", "null", "Null", "NULL"]

def nullTag : String := "tag:yaml.org,2002:null"
def boolTag : String := "tag:yaml.org,2002:bool"

/-- A text that may be left out. A plain word for nothing leaves it out, unless a tag says that it
is something. -/
def optionalText? : Node → Option (Option String)
  | .scalar s none true _ => some (if nullWords.contains s then none else some s)
  | .scalar s (some tag) true _ =>
    if tag == nullTag then
      if nullWords.contains s && !s.isEmpty then some none else none
    else some (if s.isEmpty then none else some s)
  | .scalar s _ false _ => some (some s)
  | _ => none

/-- A flag, written plain or in a literal block that is tagged as one. -/
def flag? : Node → Option Bool
  | .scalar s tag plain literal =>
    if plain || (literal && tag == some boolTag) then
      if ["true", "True", "TRUE"].contains s then some true
      else if ["false", "False", "FALSE"].contains s then some false
      else none
    else none
  | _ => none

/-- The members of a mapping whose names are all texts; nothing at all is an empty mapping. -/
def namedMembers? : Node → Option (List (String × Node))
  | .mapping members => members.mapM fun (name, n) => (text? name).map fun s => (s, n)
  | n => if n.isEmpty then some [] else none

/-- The member of a name, if there is one; none if there are several. -/
def only? (name : String) (members : List (String × Node)) : Option (Option Node) :=
  match members.filter fun m => m.1 == name with
  | [] => some none
  | [(_, n)] => some (some n)
  | _ => none

def required? (name : String) (read : Node → Option α) (members : List (String × Node)) :
    Option α := do
  match ← only? name members with
  | some n => read n
  | none => none

def default? (name : String) (default : α) (read : Node → Option α)
    (members : List (String × Node)) : Option α := do
  match ← only? name members with
  | some n => read n
  | none => some default

def Entry.ofNode? (n : Node) : Option Entry := do
  let members ← namedMembers? n
  let platform ← required? "platform" text? members
  let displayName ← required? "display_name" text? members
  let enabled ← default? "enabled" true flag? members
  let feedUrl ← default? "feed_url" none optionalText? members
  let fixturePath ← default? "fixture_path" none optionalText? members
  let notes ← default? "notes" none optionalText? members
  some ⟨platform, displayName, enabled, feedUrl, fixturePath, notes⟩

/-- The items of a sequence; nothing at all is an empty one. -/
def items? : Node → Option (List Node)
  | .sequence items => some items
  | n => if n.isEmpty then some [] else none

namespace Registry

def ofNode? (n : Node) : Option Registry := do
  let members ← namedMembers? n
  let items ← required? "sources" items? members
  items.mapM Entry.ofNode?

/-- Does a platform shadow a fixed field? -/
def clashes (e : Entry) : Bool := Sync.Report.reserved.contains (Text.lowered e.platform)

def parse (text : String) : Except RegistryFault Registry :=
  match (Node.ofText? text).bind ofNode? with
  | none => .error .unreadable
  | some registry =>
    match registry.find? clashes with
    | some e => .error (.clash e.platform)
    | none => .ok registry

def enabled (r : Registry) : List Entry := r.filter (·.enabled)

end Registry

end Catalog.Config
