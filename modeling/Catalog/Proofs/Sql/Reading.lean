import Mathlib.Data.List.Basic
import Catalog.Proofs.Sql.Evaluation
import Catalog.Proofs.Text.Digits

/-!
Conditions read from the text of a statement. The reader knows the spelling of the expressions
that filters are translated to and how tightly they bind: a conjunction groups before a
disjunction, and parentheses group first of all.
-/
namespace Catalog.Sql

/-- Reads a phrase off the front of a text and leaves the rest. -/
abbrev Reader (α : Type) := List Char → Option (α × List Char)

/-- The first word of a table that the text begins with. -/
def word? {α : Type} : List (String × α) → Reader α
  | [], _ => none
  | (word, a) :: others, cs =>
    match cs.dropPrefix? word.toList with
    | some rest => some (a, rest)
    | none => word? others cs

/-- A numbered placeholder with a cast behind it. -/
def placeholder? (cast : String) : Reader Placeholder := fun cs => do
  let cs ← cs.dropPrefix? "$".toList
  let p ← Text.decimal? (cs.takeWhile Text.isDigit)
  let cs ← (cs.dropWhile Text.isDigit).dropPrefix? cast.toList
  some (p, cs)

inductive ValueWord where
  | path | element

def valueWords : List (String × ValueWord) := [("(doc #> ", .path), ("el.v", .element)]

/-- The value at a path, or the element looked at. -/
def value? : Reader Operand := fun cs => do
  let (word, cs) ← word? valueWords cs
  match word with
  | .path => do
    let (p, cs) ← placeholder? "::text[])" cs
    some (.path p, cs)
  | .element => some (.element, cs)

/-- What a test may be about: a value, or null in its place. -/
def operand? : Reader Operand := fun cs =>
  match cs.dropPrefix? "COALESCE(".toList with
  | some cs => do
    let (j, cs) ← value? cs
    let cs ← cs.dropPrefix? ", 'null'::jsonb)".toList
    some (.orNull j, cs)
  | none => value? cs

/-- What may be looked through: a value, or its elements if it is an array. -/
def source? : Reader Operand := fun cs =>
  match cs.dropPrefix? "CASE WHEN jsonb_typeof(".toList with
  | some cs => do
    let (j, cs) ← value? cs
    let cs ← cs.dropPrefix? ") = 'array' THEN ".toList
    let (again, cs) ← value? cs
    let cs ← cs.dropPrefix? " ELSE '[]'::jsonb END".toList
    if again = j then some (.arrayOrEmpty j, cs) else none
  | none => value? cs

def comparisons : List (String × Comparison) := [(">=", .gte), ("=", .eq), ("<", .lt)]

def kinds : List (String × Kind) :=
  [("'string'", .string), ("'number'", .number), ("'boolean'", .boolean), ("'array'", .array),
    ("'object'", .object)]

/-- A comparison with a placeholder, behind what is compared. -/
def compared? (test : Comparison → Placeholder → Condition) (cast : String) : Reader Condition :=
  fun cs => do
    let cs ← cs.dropPrefix? " ".toList
    let (c, cs) ← word? comparisons cs
    let cs ← cs.dropPrefix? " ".toList
    let (p, cs) ← placeholder? cast cs
    some (test c p, cs)

inductive TestWord where
  | equals | float | text | bool | regex

def testWords : List (String × TestWord) :=
  [(" = ", .equals), (" #>> '\x7b\x7d')::float8", .float),
    (" #>> '\x7b\x7d') COLLATE \"C\"", .text), (" #>> '\x7b\x7d')::boolean", .bool),
    (" #>> '\x7b\x7d') ~ ", .regex)]

/-- The test of an operand in parentheses. -/
def tested? (j : Operand) : Reader Condition := fun cs => do
  let (word, cs) ← word? testWords cs
  match word with
  | .equals => do
    let (p, cs) ← placeholder? "::jsonb" cs
    let cs ← cs.dropPrefix? ")".toList
    some (.equals j p, cs)
  | .float => compared? (.float j) "::float8" cs
  | .text => compared? (.text j) "::text" cs
  | .bool => compared? (.bool j) "::boolean" cs
  | .regex => do
    let (p, cs) ← placeholder? "" cs
    some (.regex j p, cs)

/-- One or more phrases with a separator between them. -/
def separated? {α : Type} (separator : String) (read? : Reader α) : Nat → Reader (List α)
  | 0, _ => none
  | n + 1, cs => do
    let (a, cs) ← read? cs
    match cs.dropPrefix? separator.toList with
    | none => some ([a], cs)
    | some cs => do
      let (more, cs) ← separated? separator read? n cs
      some (a :: more, cs)

/-- Parts joined by `AND`. -/
def conjunction? (read? : Reader Condition) (n : Nat) : Reader Condition := fun cs => do
  let (parts, cs) ← separated? " AND " read? n cs
  some (joined .all .always parts, cs)

/-- Parts joined by `OR`, each a conjunction. -/
def disjunction? (read? : Reader Condition) (n : Nat) : Reader Condition := fun cs => do
  let (parts, cs) ← separated? " OR " (conjunction? read? n) n cs
  some (joined .any .never parts, cs)

inductive Opening where
  | always | never | kind | date | look | choice | group

def openings : List (String × Opening) :=
  [("TRUE", .always), ("FALSE", .never), ("jsonb_typeof(", .kind), ("opcat_date(", .date),
    ("EXISTS (SELECT 1 FROM jsonb_array_elements(", .look), ("(CASE WHEN ", .choice),
    ("(", .group)]

/-- A condition that needs no parentheses around it. The bound limits how deep conditions may
stand inside each other and how many may be joined. -/
def primary? : Nat → Reader Condition
  | 0, _ => none
  | n + 1, cs => do
    let (opening, cs) ← word? openings cs
    match opening with
    | .always => some (.always, cs)
    | .never => some (.never, cs)
    | .kind => do
      let (j, cs) ← operand? cs
      let cs ← cs.dropPrefix? ")".toList
      let cs ← cs.dropPrefix? " = ".toList
      let (k, cs) ← word? kinds cs
      some (.isKind j k, cs)
    | .date => do
      let (j, cs) ← operand? cs
      let cs ← cs.dropPrefix? " #>> '\x7b\x7d'".toList
      let cs ← cs.dropPrefix? ")".toList
      compared? (.date j) "::timestamptz" cs
    | .look => do
      let (source, cs) ← source? cs
      let cs ← cs.dropPrefix? ") AS el(v) WHERE ".toList
      let (test, cs) ← disjunction? (primary? n) n cs
      let cs ← cs.dropPrefix? ")".toList
      some (.exists source test, cs)
    | .choice => do
      let (test, cs) ← disjunction? (primary? n) n cs
      let cs ← cs.dropPrefix? " THEN ".toList
      let (yes, cs) ← disjunction? (primary? n) n cs
      let cs ← cs.dropPrefix? " ELSE ".toList
      let (no, cs) ← disjunction? (primary? n) n cs
      let cs ← cs.dropPrefix? " END)".toList
      some (.choose test yes no, cs)
    | .group =>
      match operand? cs with
      | some (j, cs) => tested? j cs
      | none => do
        let (c, cs) ← disjunction? (primary? n) n cs
        let cs ← cs.dropPrefix? ")".toList
        some (c, cs)

/-- The condition that a text spells, if it spells one and nothing else. -/
def read? (text : String) : Option Condition :=
  let cs := text.toList
  match disjunction? (primary? cs.length) cs.length cs with
  | some (c, []) => some c
  | _ => none

end Catalog.Sql
