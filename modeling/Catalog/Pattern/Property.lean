import Catalog.Pattern.Expression
import Catalog.Pattern.PropertyTable

/-!
Which property names the Unicode database knows. Names are matched loosely: letter case, blanks,
hyphens and low lines do not count, nor does a leading `is`.
-/
namespace Catalog.Pattern

def wordsOf (lines : List String) : List String := lines.flatMap (Text.splitText ' ')

/-- The loose form of a name. -/
def looseName (name : String) : String :=
  let cs := name.toList
  let (is, cs) := match cs with
    | i :: s :: rest =>
      if (i == 'i' || i == 'I') && (s == 's' || s == 'S') then (true, rest) else (false, cs)
    | cs => (false, cs)
  let kept := (cs.filter fun c => Text.isAscii c && c != ' ' && c != '_' && c != '-').map
    Text.asciiLower
  if is && kept == ['c'] then "isc" else String.ofList kept

namespace Property

def categoryNames : List String := wordsOf PropertyTable.categories
def scriptNames : List String := wordsOf PropertyTable.scripts
def binaryNames : List String := wordsOf PropertyTable.binary

/-- The values of the properties that take one. -/
def valueNames (property : String) : List String :=
  match property with
  | "gc" | "generalcategory" => categoryNames
  | "sc" | "script" | "scx" | "scriptextensions" => scriptNames
  | "age" => wordsOf PropertyTable.ages
  | "gcb" | "graphemeclusterbreak" => wordsOf PropertyTable.graphemeBreaks
  | "wb" | "wordbreak" => wordsOf PropertyTable.wordBreaks
  | "sb" | "sentencebreak" => wordsOf PropertyTable.sentenceBreaks
  | _ => []

def known : Property → Bool
  | .named name =>
    let name := looseName name
    categoryNames.contains name || scriptNames.contains name || binaryNames.contains name
  | .valued name value => (valueNames (looseName name)).contains (looseName value)

end Property

end Catalog.Pattern
