import Catalog.Disk.Content
import Catalog.Document.Basic
import Catalog.Json.Complaint
import Catalog.Query.Fault

/-!
Why a collection refuses a request.
-/
namespace Catalog.Store

inductive Fault where
  | io (path : String) (cause : Disk.Fault)
  | corrupt (path : String) (complaint : Json.Complaint)
  | invalidDocument (reason : String)
  | query (fault : Query.Fault)
  deriving Repr

namespace Fault

/-- The message without its cause. -/
def headline : Fault → String
  | .io path _ => "i/o error on " ++ path
  | .corrupt path _ => "collection file " ++ path ++ " is not a JSON array of documents"
  | .invalidDocument reason => "invalid document: " ++ reason
  | .query fault => fault.message

def cause? : Fault → Option String
  | .io _ cause => some cause.message
  | .corrupt _ complaint => some complaint.message
  | _ => none

def message (f : Fault) : String :=
  match f.cause? with
  | some cause => f.headline ++ ": " ++ cause
  | none => f.headline

/-- The message followed by its causes, each after a colon. -/
def trail (f : Fault) : String :=
  match f.cause? with
  | some cause => f.message ++ ": " ++ cause
  | none => f.message

end Fault

end Catalog.Store
