import Catalog.Disk.Content

/-!
Why a source yields no records.
-/
namespace Catalog.Feed

inductive Fault where
  | transport (url cause : String)
  | status (url : String) (code : Nat)
  | io (path : String) (cause : Disk.Fault)
  | parse (origin : String)
  | shape (origin : String)
  | notConfigured (platform : String)
  deriving DecidableEq, Repr

/-- What a text that should be JSON is instead. -/
def unreadableText : String := "malformed JSON"

namespace Fault

/-- The message without its cause. -/
def headline : Fault → String
  | .transport url _ => "requesting " ++ url
  | .status url code => url ++ " answered http " ++ toString code
  | .io path _ => "reading " ++ path
  | .parse origin => "parsing feed " ++ origin
  | .shape origin =>
    "feed " ++ origin ++ " is neither an array nor an object with an `opportunities` or `data` array"
  | .notConfigured platform => "source " ++ platform ++ " has no feed_url or fixture_path configured"

def message (f : Fault) : String :=
  match f with
  | .transport _ cause => f.headline ++ ": " ++ cause
  | .io _ cause => f.headline ++ ": " ++ cause.message
  | .parse _ => f.headline ++ ": " ++ unreadableText
  | _ => f.headline

end Fault

end Catalog.Feed
