import Catalog.Sql.Expression

/-!
The text of conditions and sort orders.
-/
namespace Catalog.Sql

def placeholder (p : Placeholder) : String := "$" ++ toString p

/-- The path that selects the whole value as text. -/
def wholeText : String := " #>> '\x7b\x7d'"

namespace Operand

def render : Operand → String
  | .path p => "(doc #> " ++ placeholder p ++ "::text[])"
  | .element => "el.v"
  | .orNull j => "COALESCE(" ++ j.render ++ ", 'null'::jsonb)"
  | .arrayOrEmpty j =>
    "CASE WHEN jsonb_typeof(" ++ j.render ++ ") = 'array' THEN " ++ j.render ++
      " ELSE '[]'::jsonb END"

def asText (j : Operand) : String := j.render ++ wholeText

def typeName (j : Operand) : String := "jsonb_typeof(" ++ j.render ++ ")"

end Operand

def Comparison.render : Comparison → String
  | .eq => "="
  | .gte => ">="
  | .lt => "<"

def Kind.render : Kind → String
  | .string => "'string'"
  | .number => "'number'"
  | .boolean => "'boolean'"
  | .array => "'array'"
  | .object => "'object'"

namespace Condition

def compared (left : String) (c : Comparison) (p : Placeholder) (cast : String) : String :=
  left ++ " " ++ c.render ++ " " ++ placeholder p ++ cast

mutual

def render : Condition → String
  | .always => "TRUE"
  | .never => "FALSE"
  | .isKind j k => j.typeName ++ " = " ++ k.render
  | .equals j p => "(" ++ compared j.render .eq p "::jsonb" ++ ")"
  | .date j c p => compared ("opcat_date(" ++ j.asText ++ ")") c p "::timestamptz"
  | .float j c p => compared ("(" ++ j.asText ++ ")::float8") c p "::float8"
  | .text j c p => compared ("(" ++ j.asText ++ ") COLLATE \"C\"") c p "::text"
  | .bool j c p => compared ("(" ++ j.asText ++ ")::boolean") c p "::boolean"
  | .regex j p => "(" ++ j.asText ++ ") ~ " ++ placeholder p
  | .all parts => "(" ++ renderJoined " AND " parts ++ ")"
  | .any parts => "(" ++ renderJoined " OR " parts ++ ")"
  | .choose test yes no =>
    "(CASE WHEN " ++ test.render ++ " THEN " ++ yes.render ++ " ELSE " ++ no.render ++ " END)"
  | .exists source test =>
    "EXISTS (SELECT 1 FROM jsonb_array_elements(" ++ source.render ++ ") AS el(v) WHERE " ++
      test.render ++ ")"

def renderJoined (separator : String) : List Condition → String
  | [] => ""
  | [c] => c.render
  | c :: rest => c.render ++ separator ++ renderJoined separator rest

end

end Condition

def Column.render : Column → String
  | .kind j =>
    "CASE " ++ j.typeName ++ " WHEN 'string' THEN 1 WHEN 'number' THEN 2 " ++
      "WHEN 'boolean' THEN 3 WHEN 'array' THEN 4 WHEN 'object' THEN 5 ELSE 0 END"
  | .date j =>
    "CASE WHEN " ++ j.typeName ++ " = 'string' THEN opcat_date(" ++ j.asText ++ ") END"
  | .text j =>
    "CASE WHEN " ++ j.typeName ++ " = 'string' AND opcat_date(" ++ j.asText ++
      ") IS NULL THEN (" ++ j.asText ++ ") COLLATE \"C\" END"
  | .number j =>
    "CASE WHEN " ++ j.typeName ++ " = 'number' THEN (" ++ j.asText ++ ")::float8 END"
  | .other j =>
    "CASE WHEN " ++ j.typeName ++ " IN ('boolean', 'array', 'object') THEN " ++ j.render ++ " END"
  | .sequence => "seq"

def Nulls.render : Nulls → String
  | .unsaid => ""
  | .first => " NULLS FIRST"
  | .last => " NULLS LAST"

def SortTerm.render (t : SortTerm) : String :=
  t.column.render ++ (if t.descending then " DESC" else " ASC") ++ t.nulls.render

def renderOrder (terms : List SortTerm) : String :=
  ", ".intercalate (terms.map SortTerm.render)

/-- The clause that cuts a page out of a result. -/
def renderWindow (limit offset : Placeholder) : String :=
  " LIMIT " ++ placeholder limit ++ " OFFSET " ++ placeholder offset

end Catalog.Sql
