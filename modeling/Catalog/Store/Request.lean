import Catalog.Query.Filter
import Catalog.Query.Page
import Catalog.Store.Fault

/-!
What can be asked of a collection of documents, and with what kind of answer.
-/
namespace Catalog.Store

open Json

structure Upserted where
  created : Bool
  record : Value
  deriving Repr

/-- A request for an answer of type `α`. -/
inductive Request : Type → Type where
  | find (filter : Query.Filter) (selection : Query.Selection) : Request Query.Page
  | findById (id : String) : Request (Option Value)
  | create (data : Value) : Request Value
  | update (id : String) (patch : Value) : Request (Option Value)
  | updateMany (filter : Query.Filter) (patch : Value) : Request Nat
  | upsert (filter : Query.Filter) (data : Value) : Request Upserted
  | count (filter : Query.Filter) : Request Nat

def Request.name : Request α → String
  | .find _ _ => "find"
  | .findById _ => "find_by_id"
  | .create _ => "create"
  | .update _ _ => "update"
  | .updateMany _ _ => "update_many"
  | .upsert _ _ => "upsert"
  | .count _ => "count"

/-- The time of a request, and an identity that no document has yet. -/
structure Moment where
  now : Time.Instant
  fresh : String
  deriving Repr

end Catalog.Store
