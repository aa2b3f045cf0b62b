import Catalog.Query.Matching
import Catalog.Sql.Statement

/-!
What a condition says of a stored document: three-valued logic over the jsonb functions of a
database, with a fourth outcome for a statement that fails. The functions are the database's own;
`Engine.Faithful` lists what is relied on.
-/
namespace Catalog.Sql

open Json

/-- The functions of a database that conditions call. -/
structure Engine where
  /-- The value below a document along some names, as `#>` finds it. -/
  extract : Value → List String → Option Value
  /-- A whole value as text, as `#>>` gives it. -/
  asText : Value → Option String
  /-- Equality of jsonb values. -/
  equals : Value → Value → Bool
  /-- The date that a text reads as, as `opcat_date` reads it. -/
  date : String → Option Time.Instant
  /-- The order of a number cast to `float8` and a bound double. -/
  compareFloat : Number → Binary64 → Ordering
  /-- The order of texts under `COLLATE "C"`. -/
  collate : String → String → Ordering
  /-- Does a text match an advanced expression, as `~` has it? -/
  matchesAre : String → String → Bool

/-- The engine runs the advanced expression of a pattern as the pattern itself matches. -/
def Engine.Runs (e : Engine) (p : Pattern) : Prop :=
  ∀ text, e.matchesAre text p.are = p.isMatch text

/-- What is relied on: names select through objects, texts are their own text, jsonb equality is
equality in queries unless a date is asked for, and dates, doubles and texts read and compare as
they do in memory. -/
structure Engine.Faithful (e : Engine) : Prop where
  extract_eq : ∀ doc names, e.extract doc names = Document.select doc names
  asText_eq : ∀ s, e.asText (.text s) = some s
  equals_eq : ∀ stored v, v.instant? = none → e.equals stored v = Query.equal stored v
  date_eq : ∀ s, e.date s = Time.Instant.parse? s
  compareFloat_eq : ∀ n x, e.compareFloat n x = n.toBinary64.compare x
  collate_eq : ∀ a b, e.collate a b = Query.compareText a b

inductive Truth where
  | yes
  | no
  | unknown
  /-- The statement ends with an error. -/
  | fails
  deriving DecidableEq, Repr

namespace Truth

def ofBool (b : Bool) : Truth := if b then .yes else .no

/-- Both parts are evaluated, in an order that is not promised, so either may fail the whole. -/
def and : Truth → Truth → Truth
  | .fails, _ | _, .fails => .fails
  | .no, _ | _, .no => .no
  | .unknown, _ | _, .unknown => .unknown
  | .yes, .yes => .yes

def or : Truth → Truth → Truth
  | .fails, _ | _, .fails => .fails
  | .yes, _ | _, .yes => .yes
  | .unknown, _ | _, .unknown => .unknown
  | .no, .no => .no

def all (ts : List Truth) : Truth := ts.foldr and .yes

def any (ts : List Truth) : Truth := ts.foldr or .no

/-- Is there a row whose condition is true? Unknown rows do not count, and the answer is never
unknown. -/
def found (ts : List Truth) : Truth :=
  match any ts with
  | .unknown => .no
  | t => t

end Truth

def Comparison.holds : Comparison → Ordering → Bool
  | .eq, order => order == .eq
  | .gte, order => order != .lt
  | .lt, order => order == .lt

/-- Does `jsonb_typeof` give the kind? -/
def Kind.is : Kind → Value → Bool
  | .string, .text _ => true
  | .number, .number _ => true
  | .boolean, .bool _ => true
  | .array, .array _ => true
  | .object, .object _ => true
  | _, _ => false

/-- A stored document under a statement whose parameters are bound. -/
structure Row where
  engine : Engine
  bound : List Param
  doc : Value

namespace Row

def param? (r : Row) : Placeholder → Option Param
  | 0 => none
  | k + 1 => r.bound[k]?

/-- The value of an operand, which may be the SQL null; none if the statement fails. Elements exist
only inside a look through an array. -/
def operand (r : Row) (element : Option Value) : Operand → Option (Option Value)
  | .path p =>
    match r.param? p with
    | some (.textArray names) => some (r.engine.extract r.doc names)
    | _ => none
  | .element => element.map some
  | .orNull j => (r.operand element j).map fun v => some (v.getD .null)
  | .arrayOrEmpty j =>
    (r.operand element j).map fun v =>
      match v with
      | some (.array items) => some (.array items)
      | _ => some (.array [])

/-- A test of the value of an operand; the SQL null makes it unknown. -/
def check (r : Row) (element : Option Value) (j : Operand) (test : Value → Truth) : Truth :=
  match r.operand element j with
  | some (some v) => test v
  | some none => .unknown
  | none => .fails

def compared (c : Comparison) : Option Ordering → Truth
  | some order => .ofBool (c.holds order)
  | none => .unknown

def dateTest (r : Row) (c : Comparison) (t : Time.Instant) (v : Value) : Truth :=
  compared c (((r.engine.asText v).bind r.engine.date).map fun x => x.compare t)

def textTest (r : Row) (c : Comparison) (s : String) (v : Value) : Truth :=
  compared c ((r.engine.asText v).map fun x => r.engine.collate x s)

def regexTest (r : Row) (are : String) (v : Value) : Truth :=
  match r.engine.asText v with
  | some s => .ofBool (r.engine.matchesAre s are)
  | none => .unknown

/-- The cast of anything but a number is taken to fail. -/
def floatTest (r : Row) (c : Comparison) (x : Binary64) : Value → Truth
  | .number n => .ofBool (c.holds (r.engine.compareFloat n x))
  | _ => .fails

/-- The cast of anything but a boolean is taken to fail. -/
def boolTest (c : Comparison) (b : Bool) : Value → Truth
  | .bool a => .ofBool (c.holds (Query.compareBool a b))
  | _ => .fails

mutual

/-- The outcome of a condition on a row, inside a look through an array perhaps. -/
def truth (r : Row) (element : Option Value) : Condition → Truth
  | .always => .yes
  | .never => .no
  | .isKind j k => r.check element j fun v => .ofBool (k.is v)
  | .equals j p =>
    match r.param? p with
    | some (.json w) => r.check element j fun v => .ofBool (r.engine.equals v w)
    | _ => .fails
  | .date j c p =>
    match r.param? p with
    | some (.timestamp t) => r.check element j (r.dateTest c t)
    | _ => .fails
  | .float j c p =>
    match r.param? p with
    | some (.float x) => r.check element j (r.floatTest c x)
    | _ => .fails
  | .text j c p =>
    match r.param? p with
    | some (.text s) => r.check element j (r.textTest c s)
    | _ => .fails
  | .bool j c p =>
    match r.param? p with
    | some (.bool b) => r.check element j (boolTest c b)
    | _ => .fails
  | .regex j p =>
    match r.param? p with
    | some (.text are) => r.check element j (r.regexTest are)
    | _ => .fails
  | .all parts => .all (r.truths element parts)
  | .any parts => .any (r.truths element parts)
  | .choose test yes no =>
    match r.truth element test with
    | .yes => r.truth element yes
    | .fails => .fails
    | _ => r.truth element no
  | .exists source test =>
    match r.operand element source with
    | some (some (.array items)) => .found (items.map fun v => r.truth (some v) test)
    | some none => .no
    | _ => .fails

def truths (r : Row) (element : Option Value) : List Condition → List Truth
  | [] => []
  | c :: rest => r.truth element c :: r.truths element rest

end

section Equations

variable (r : Row) (element : Option Value)

theorem truth_never : r.truth element .never = .no := rfl

theorem truth_isKind (j : Operand) (k : Kind) :
    r.truth element (.isKind j k) = r.check element j fun v => .ofBool (k.is v) := rfl

theorem truth_equals (j : Operand) (p : Placeholder) :
    r.truth element (.equals j p) = match r.param? p with
      | some (.json w) => r.check element j fun v => .ofBool (r.engine.equals v w)
      | _ => .fails := rfl

theorem truth_date (j : Operand) (c : Comparison) (p : Placeholder) :
    r.truth element (.date j c p) = match r.param? p with
      | some (.timestamp t) => r.check element j (r.dateTest c t)
      | _ => .fails := rfl

theorem truth_float (j : Operand) (c : Comparison) (p : Placeholder) :
    r.truth element (.float j c p) = match r.param? p with
      | some (.float x) => r.check element j (r.floatTest c x)
      | _ => .fails := rfl

theorem truth_text (j : Operand) (c : Comparison) (p : Placeholder) :
    r.truth element (.text j c p) = match r.param? p with
      | some (.text s) => r.check element j (r.textTest c s)
      | _ => .fails := rfl

theorem truth_bool (j : Operand) (c : Comparison) (p : Placeholder) :
    r.truth element (.bool j c p) = match r.param? p with
      | some (.bool b) => r.check element j (boolTest c b)
      | _ => .fails := rfl

theorem truth_regex (j : Operand) (p : Placeholder) :
    r.truth element (.regex j p) = match r.param? p with
      | some (.text are) => r.check element j (r.regexTest are)
      | _ => .fails := rfl

theorem truth_all (parts : List Condition) :
    r.truth element (.all parts) = .all (r.truths element parts) := rfl

theorem truth_any (parts : List Condition) :
    r.truth element (.any parts) = .any (r.truths element parts) := rfl

theorem truth_choose (test yes no : Condition) :
    r.truth element (.choose test yes no) = match r.truth element test with
      | .yes => r.truth element yes
      | .fails => .fails
      | _ => r.truth element no := rfl

theorem truth_exists (source : Operand) (test : Condition) :
    r.truth element (.exists source test) = match r.operand element source with
      | some (some (.array items)) => .found (items.map fun v => r.truth (some v) test)
      | some none => .no
      | _ => .fails := rfl

theorem truths_nil : r.truths element [] = [] := rfl

theorem truths_cons (c : Condition) (rest : List Condition) :
    r.truths element (c :: rest) = r.truth element c :: r.truths element rest := rfl

end Equations

end Row

end Catalog.Sql
