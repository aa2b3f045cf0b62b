import Catalog.Store.Facade

/-!
The expiration sweep: listings whose end has passed stop being active.
-/
namespace Catalog.Sync

open Json Store

/-- Active listings that ended before the given time. -/
def expired (now : Time.Instant) : Query.Filter :=
  [Query.Filter.eq Field.isActive (.bool true),
    .field Field.endDate (.lt (Document.stampValue now))]

def deactivation (now : Time.Instant) : Value :=
  .record [(Field.isActive, .bool false), (Field.lastUpdated, Document.stampValue now)]

variable {δ : Type}

/-- Deactivates what has expired at `now`; the number of listings changed. -/
def sweepBy (ask : {α : Type} → Request α → Work δ α) (now : Time.Instant) : Work δ Nat :=
  ask (.updateMany (expired now) (deactivation now))

def sweep [Service δ] (clock now : Time.Instant) : Work δ Nat := sweepBy (Session.ask clock) now

end Catalog.Sync
