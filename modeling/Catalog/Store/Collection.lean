import Catalog.Query.Matching
import Catalog.Store.Request

/-!
The meaning of requests over a list of documents in the order of their insertion. An answer comes
with the documents to store in place of the old ones, if the request is a write that took place.
-/
namespace Catalog.Store

open Json

namespace Collection

/-- The document with a patch applied and its change stamped. -/
def revise (now : Time.Instant) (patch doc : Value) : Except Fault Value :=
  match Document.patch? doc patch with
  | some doc => .ok (Document.touch doc now)
  | none => .error (.invalidDocument (Document.refusal patch))

def stamped (moment : Moment) (data : Value) : Except Fault Value :=
  match Document.stampNew? data moment.fresh moment.now with
  | some doc => .ok doc
  | none => .error (.invalidDocument (Document.refusal data))

/-- Changes the first document that passes the test; the changed one, and all of them. -/
def reviseFirst (test : Value → Bool) (change : Value → Except Fault Value) :
    List Value → Except Fault (Option (Value × List Value))
  | [] => .ok none
  | doc :: rest =>
    if test doc then do
      let doc ← change doc
      .ok (some (doc, doc :: rest))
    else do
      match ← reviseFirst test change rest with
      | some (changed, rest) => .ok (some (changed, doc :: rest))
      | none => .ok none

def reviseAll (test : Value → Bool) (change : Value → Except Fault Value) :
    List Value → Except Fault (List Value)
  | [] => .ok []
  | doc :: rest => do
    let doc ← if test doc then change doc else .ok doc
    let rest ← reviseAll test change rest
    .ok (doc :: rest)

def hasId (id : String) (doc : Value) : Bool := Document.id? doc == some id

/-- What is known to be refused before the documents are read. -/
def refusal? : Request α → Option Fault
  | .create data =>
    match data.object? with
    | some _ => none
    | none => some (.invalidDocument (Document.refusal data))
  | _ => none

def answer (moment : Moment) (request : Request α) (docs : List Value) :
    Except Fault (α × Option (List Value)) :=
  match request with
  | .find filter selection =>
    let found := selection.ranking.apply (docs.filter (Query.selects filter))
    .ok (⟨selection.window found, found.length⟩, none)
  | .findById id => .ok (docs.find? (hasId id), none)
  | .create data => do
    let doc ← stamped moment data
    .ok (doc, some (docs ++ [doc]))
  | .update id patch => do
    match ← reviseFirst (hasId id) (revise moment.now patch) docs with
    | some (doc, docs) => .ok (some doc, some docs)
    | none => .ok (none, none)
  | .updateMany filter patch => do
    let changed := docs.countP (Query.selects filter)
    let docs ← reviseAll (Query.selects filter) (revise moment.now patch) docs
    .ok (changed, if changed == 0 then none else some docs)
  | .upsert filter data => do
    match ← reviseFirst (Query.selects filter) (revise moment.now data) docs with
    | some (doc, docs) => .ok (⟨false, doc⟩, some docs)
    | none =>
      let doc ← stamped moment data
      .ok (⟨true, doc⟩, some (docs ++ [doc]))
  | .count filter => .ok (docs.countP (Query.selects filter), none)

end Collection

end Catalog.Store
