import Catalog.Json.Layout
import Catalog.Pattern.Basic

/-!
Why a query is refused.
-/
namespace Catalog.Query

open Json

inductive Fault where
  | notAnObject (v : Value)
  | unsupportedOperator (name : String)
  | invalidOr
  | invalidOperand (operator expected : String)
  | pattern (fault : Pattern.Fault)
  | invalidSort (part : String)
  deriving Repr

/-- What is wrong with a source that is no regular expression. -/
def irregularity (source : String) : Pattern.Irregularity → String
  | .unreadable => "regex parse error:\n    " ++ source
  | .tooLarge =>
    "Compiled regex exceeds size limit of " ++ toString Pattern.largestMachine ++ " bytes."

namespace Fault

def message : Fault → String
  | .notAnObject v => "filter must be a JSON object, got " ++ v.compact
  | .unsupportedOperator name => "unsupported operator `" ++ name ++ "`"
  | .invalidOr => "`$or` expects a non-empty array of filter objects"
  | .invalidOperand operator expected => "`" ++ operator ++ "` expects " ++ expected
  | .pattern (.option c) => "unsupported regex option `" ++ c.toString ++ "`"
  | .pattern (.notRegular source cause) =>
    "invalid regex `" ++ source ++ "`: " ++ irregularity source cause
  | .pattern (.notPortable source obstacle) =>
    "regex `" ++ source ++ "` has no portable meaning: " ++ obstacle.message
  | .invalidSort part => "invalid sort spec `" ++ part ++ "`"

end Fault

end Catalog.Query
