import Catalog.Listing.Record
import Catalog.Store.Facade
import Catalog.Sync.Freshness

/-!
Reconciling a record with the stored listings: it is new, it changes the listing it belongs to, or
it is current already. The keys of a record are tried one at a time, so that the surest key decides
even where a weaker one finds an older listing. The engine is written over whoever answers its
requests; in the program the storage does.
-/
namespace Catalog.Sync

open Json Store

inductive Outcome where
  | created
  | updated
  | skipped
  deriving DecidableEq, Repr

def Outcome.name : Outcome → String
  | .created => "created"
  | .updated => "updated"
  | .skipped => "skipped"

inductive Failure where
  | malformed (mismatch : Mismatch)
  | noCandidateKey (key : String)
  | storage (fault : Store.Fault)
  deriving Repr

def Failure.message : Failure → String
  | .malformed mismatch => "malformed record: " ++ mismatch.message
  | .noCandidateKey key => "record `" ++ key ++ "` carries no usable candidate key"
  | .storage fault => fault.message

section Asking

variable {δ : Type} (ask : {α : Type} → Request α → Work δ α) (now : Time.Instant) (window : Window)

/-- The first key that finds a listing, and the first listing it finds. -/
def findPreviousBy : List Query.Filter → Work δ (Option (Query.Filter × Value))
  | [] => pure none
  | key :: rest => do
    match ← Session.findOneBy ask key with
    | some doc => pure (some (key, doc))
    | none => findPreviousBy rest

/-- Writes a listing as seen at `now`. -/
def reconcileListingBy (listing : Listing) : Work δ Outcome := do
  let keys := listing.candidates
  let incoming := listing.toDocument now
  match ← findPreviousBy ask keys with
  | none =>
    let written ← ask (.upsert [.either keys] incoming)
    pure (if written.created then .created else .updated)
  | some (key, existing) =>
    if needsUpdate existing incoming now window then
      let target := match Document.id? existing with
        | some id => Query.Filter.byId id
        | none => key
      let _ ← ask (.upsert target incoming)
      pure .updated
    else pure .skipped

/-- Reconciles one record; a record that cannot be taken leaves everything as it was. -/
def reconcileBy (record : Value) (s : Storage δ) : Except Failure Outcome × Storage δ :=
  match Listing.ofValue record with
  | .error mismatch => (.error (.malformed mismatch), s)
  | .ok listing =>
    if listing.candidates.isEmpty then (.error (.noCandidateKey listing.displayKey), s)
    else
      let (outcome, s) := reconcileListingBy ask now window listing s
      (outcome.mapError .storage, s)

end Asking

variable {δ : Type} [Service δ]

/-- Writes a listing as seen at `now`; writes are stamped by the clock. -/
def reconcileListing (clock now : Time.Instant) (window : Window) (listing : Listing) :
    Work δ Outcome :=
  reconcileListingBy (Session.ask clock) now window listing

/-- Reconciles one record at `now`; writes are stamped by the clock. -/
def reconcile (clock now : Time.Instant) (window : Window) (record : Value) (s : Storage δ) :
    Except Failure Outcome × Storage δ :=
  reconcileBy (Session.ask clock) now window record s

end Catalog.Sync
