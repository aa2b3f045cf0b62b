import Catalog.Proofs.Sql.ReadBack
import Catalog.Proofs.Sql.RowOrder

/-!
Sort orders read from the text of a statement. What the columns of a sort key are written as reads
back as their criteria, one by one, in the order in which they stand.
-/
namespace Catalog.Sql

open Text (StartsOutside isDigit)

def number? : Reader Nat := fun cs => do
  let n ← Text.decimal? (cs.takeWhile isDigit)
  some (n, cs.dropWhile isDigit)

def arm? : Reader (Kind × Nat) := fun cs => do
  let (k, cs) ← word? kinds cs
  let cs ← cs.dropPrefix? " THEN ".toList
  let (n, cs) ← number? cs
  some ((k, n), cs)

inductive GuardWord where
  | kind | date

def guardWords : List (String × GuardWord) := [("jsonb_typeof(", .kind), ("opcat_date(", .date)]

inductive Membership where
  | one | several

def memberships : List (String × Membership) := [(" = ", .one), (" IN (", .several)]

def guard? : Reader Guard := fun cs => do
  let (word, cs) ← word? guardWords cs
  let (j, cs) ← value? cs
  match word with
  | .kind => do
    let cs ← cs.dropPrefix? ")".toList
    let (membership, cs) ← word? memberships cs
    match membership with
    | .one => do
      let (k, cs) ← word? kinds cs
      some (.ofKind j [k], cs)
    | .several => do
      let (ks, cs) ← separated? ", " (word? kinds) kinds.length cs
      let cs ← cs.dropPrefix? ")".toList
      some (.ofKind j ks, cs)
  | .date => do
    let cs ← cs.dropPrefix? wholeText.toList
    let cs ← cs.dropPrefix? ") IS NULL".toList
    some (.undated j, cs)

inductive ViewWord where
  | date | cast

def viewWords : List (String × ViewWord) := [("opcat_date(", .date), ("(", .cast)]

def casts : List (String × (Operand → View)) :=
  [(") COLLATE \"C\"", .text), (")::float8", .float)]

def view? : Reader View := fun cs =>
  match value? cs with
  | some (j, cs) => some (.whole j, cs)
  | none => do
    let (word, cs) ← word? viewWords cs
    let (j, cs) ← value? cs
    let cs ← cs.dropPrefix? wholeText.toList
    match word with
    | .date => do
      let cs ← cs.dropPrefix? ")".toList
      some (.date j, cs)
    | .cast => do
      let (view, cs) ← word? casts cs
      some (view j, cs)

inductive MeasureWord where
  | kinds | guards | sequence

def measureWords : List (String × MeasureWord) :=
  [("CASE jsonb_typeof(", .kinds), ("CASE WHEN ", .guards), ("seq", .sequence)]

def measure? : Reader Measure := fun cs => do
  let (word, cs) ← word? measureWords cs
  match word with
  | .kinds => do
    let (j, cs) ← value? cs
    let cs ← cs.dropPrefix? ") WHEN ".toList
    let (arms, cs) ← separated? " WHEN " arm? kinds.length cs
    let cs ← cs.dropPrefix? " ELSE ".toList
    let (otherwise, cs) ← number? cs
    let cs ← cs.dropPrefix? " END".toList
    some (.byKind j arms otherwise, cs)
  | .guards => do
    let (guards, cs) ← separated? " AND " guard? 2 cs
    let cs ← cs.dropPrefix? " THEN ".toList
    let (view, cs) ← view? cs
    let cs ← cs.dropPrefix? " END".toList
    some (.guarded guards view, cs)
  | .sequence => some (.sequence, cs)

def directions : List (String × Bool) := [(" ASC", false), (" DESC", true)]

def nullsWords : List (String × Nulls) := [(" NULLS FIRST", .first), (" NULLS LAST", .last)]

def criterion? : Reader Criterion := fun cs => do
  let (measure, cs) ← measure? cs
  let (descending, cs) ← word? directions cs
  let (nulls, cs) := (word? nullsWords cs).getD (.unsaid, cs)
  some (⟨measure, descending, nulls⟩, cs)

/-- The criteria that a text lists, if it lists some and nothing else. -/
def readOrder? (text : String) : Option (List Criterion) :=
  let cs := text.toList
  match separated? ", " criterion? cs.length cs with
  | some (criteria, []) => some criteria
  | _ => none

/-! How criteria are written -/

def armText (arm : Kind × Nat) : String := arm.1.render ++ " THEN " ++ toString arm.2

def Guard.render : Guard → String
  | .ofKind j [k] => j.typeName ++ " = " ++ k.render
  | .ofKind j ks => j.typeName ++ " IN (" ++ ", ".intercalate (ks.map Kind.render) ++ ")"
  | .undated j => "opcat_date(" ++ j.asText ++ ") IS NULL"

def View.render : View → String
  | .date j => "opcat_date(" ++ j.asText ++ ")"
  | .text j => "(" ++ j.asText ++ ") COLLATE \"C\""
  | .float j => "(" ++ j.asText ++ ")::float8"
  | .whole j => j.render

def Measure.render : Measure → String
  | .byKind j arms otherwise =>
    "CASE " ++ j.typeName ++ " WHEN " ++ " WHEN ".intercalate (arms.map armText) ++ " ELSE " ++
      toString otherwise ++ " END"
  | .guarded guards view =>
    "CASE WHEN " ++ " AND ".intercalate (guards.map Guard.render) ++ " THEN " ++ view.render ++
      " END"
  | .sequence => "seq"

def Criterion.render (c : Criterion) : String :=
  c.measure.render ++ (if c.descending then " DESC" else " ASC") ++ c.nulls.render

/-! The criteria that the reader has words for: about values at paths or elements, with something
in every list. -/

def Guard.Spelled : Guard → Prop
  | .ofKind j ks => j.IsValue ∧ ks ≠ [] ∧ ks.length ≤ kinds.length
  | .undated j => j.IsValue

def View.Spelled : View → Prop
  | .date j | .text j | .float j | .whole j => j.IsValue

def Measure.Spelled : Measure → Prop
  | .byKind j arms _ => j.IsValue ∧ arms ≠ [] ∧ arms.length ≤ kinds.length
  | .guarded guards view =>
    guards ≠ [] ∧ guards.length ≤ 2 ∧ (∀ g ∈ guards, g.Spelled) ∧ view.Spelled
  | .sequence => True

/-! Phrases read back from their own text -/

theorem number?_own (n : Nat) (rest : List Char) (outside : StartsOutside isDigit rest) :
    number? ((toString n).toList ++ rest) = some (n, rest) := by
  have digits : ∀ c ∈ Nat.toDigits 10 n, isDigit c = true := fun _ member =>
    Text.isDigit_of_mem_toDigits member
  have spelled : (toString n).toList = Nat.toDigits 10 n := by simp [Nat.toString_eq_repr]
  simp only [number?, spelled, Text.takeWhile_append_outside digits outside,
    Text.dropWhile_append_outside digits outside, Text.decimal?_toDigits, Option.bind_eq_bind,
    Option.bind_some]

theorem arm?_own (arm : Kind × Nat) {rest : List Char} (outside : StartsOutside isDigit rest) :
    arm? ((armText arm).toList ++ rest) = some (arm, rest) := by
  simp only [arm?, armText, String.toList_append, List.append_assoc, kind?_own, dropPrefix?_own,
    number?_own arm.2 rest outside, Option.bind_eq_bind, Option.bind_some]

/-- A reader that takes the text of every part for the part takes their texts with a separator
between them for the list. -/
theorem separated?_intercalate {α : Type} {read? : Reader α} {render : α → String}
    (separator : String) (follows : List Char → Prop)
    (between : ∀ rest, follows (separator.toList ++ rest)) {parts : List α} (present : parts ≠ [])
    (each : ∀ a ∈ parts, ∀ rest, follows rest → read? ((render a).toList ++ rest) = some (a, rest))
    (n : Nat) (enough : parts.length ≤ n) (rest : List Char) (after : follows rest)
    (stops : rest.dropPrefix? separator.toList = none) :
    separated? separator read? n ((separator.intercalate (parts.map render)).toList ++ rest) =
      some (parts, rest) := by
  induction n generalizing parts with
  | zero => simp_all
  | succ n ih =>
    match parts with
    | [a] =>
      have first := each a List.mem_cons_self rest after
      simp only [separated?, List.map_cons, List.map_nil, String.intercalate_singleton, first,
        Option.bind_eq_bind, Option.bind_some, stops]
    | a :: next :: parts =>
      have first := each a List.mem_cons_self
        (separator.toList ++ ((separator.intercalate ((next :: parts).map render)).toList ++ rest))
        (between _)
      have others := ih (show next :: parts ≠ [] by simp)
        (fun b member => each b (List.mem_cons_of_mem _ member)) (by simpa using enough)
      rw [List.map_cons] at others first
      simp only [separated?, List.map_cons, String.intercalate_cons_cons, String.toList_append,
        List.append_assoc, first, Option.bind_eq_bind, Option.bind_some, dropPrefix?_own, others]

theorem guard?_own {g : Guard} (spelled : g.Spelled) (rest : List Char) :
    guard? (g.render.toList ++ rest) = some (g, rest) := by
  have kindWord : ∀ cs, word? guardWords ("jsonb_typeof(".toList ++ cs) = some (.kind, cs) :=
    fun cs => word?_own cs
  have dateWord : ∀ cs, word? guardWords ("opcat_date(".toList ++ cs) = some (.date, cs) :=
    fun cs => by simp [word?, guardWords, List.dropPrefix?]
  have one : ∀ cs, word? memberships (" = ".toList ++ cs) = some (.one, cs) :=
    fun cs => word?_own cs
  have several : ∀ cs, word? memberships (" IN (".toList ++ cs) = some (.several, cs) :=
    fun cs => by simp [word?, memberships, List.dropPrefix?]
  cases g with
  | undated j =>
    simp only [guard?, Guard.render, Operand.asText, String.toList_append, List.append_assoc,
      dateWord, Operand.value?_own spelled, dropPrefix?_own, Option.bind_eq_bind,
      Option.bind_some]
  | ofKind j ks =>
    obtain ⟨value, present, few⟩ := spelled
    cases ks with
    | nil => exact absurd rfl present
    | cons k ks =>
      cases ks with
      | nil =>
        simp only [guard?, Guard.render, Operand.typeName, String.toList_append, List.append_assoc,
          kindWord, Operand.value?_own value, dropPrefix?_own, one, kind?_own, Option.bind_eq_bind,
          Option.bind_some]
      | cons next ks =>
        have listed := separated?_intercalate ", " (fun _ => True) (fun _ => trivial) present
          (fun k _ rest _ => kind?_own k rest) kinds.length few (")".toList ++ rest) trivial rfl
        simp only [guard?, Guard.render, Operand.typeName, String.toList_append, List.append_assoc,
          kindWord, Operand.value?_own value, dropPrefix?_own, several, listed, Option.bind_eq_bind,
          Option.bind_some]

theorem view?_own {v : View} (spelled : v.Spelled) (rest : List Char) :
    view? (v.render.toList ++ rest) = some (v, rest) := by
  have dateWord : ∀ cs, word? viewWords ("opcat_date(".toList ++ cs) = some (.date, cs) :=
    fun cs => word?_own cs
  have castWord : ∀ cs, word? viewWords ("(".toList ++ cs) = some (.cast, cs) :=
    fun cs => by simp [word?, viewWords, List.dropPrefix?]
  have noValue : ∀ cs, value? ("opcat_date(".toList ++ cs) = none := fun cs => rfl
  have noPath : ∀ {j : Operand} cs, j.IsValue →
      value? ("(".toList ++ (j.render.toList ++ cs)) = none := by
    intro j cs value
    cases j with
    | path p =>
      rw [Operand.render_path]
      simp only [String.toList_append, List.append_assoc]
      rfl
    | element => rfl
    | orNull | arrayOrEmpty => cases value
  cases v with
  | date j =>
    simp only [view?, View.render, Operand.asText, String.toList_append, List.append_assoc,
      noValue, dateWord, Operand.value?_own spelled, dropPrefix?_own, Option.bind_eq_bind,
      Option.bind_some]
  | text j =>
    have cast : ∀ cs, word? casts (") COLLATE \"C\"".toList ++ cs) = some (.text, cs) :=
      fun cs => word?_own cs
    simp only [view?, View.render, Operand.asText, String.toList_append, List.append_assoc,
      noPath _ spelled, castWord, Operand.value?_own spelled, dropPrefix?_own, cast,
      Option.bind_eq_bind, Option.bind_some]
  | float j =>
    have cast : ∀ cs, word? casts (")::float8".toList ++ cs) = some (.float, cs) :=
      fun cs => by simp [word?, casts, List.dropPrefix?]
    simp only [view?, View.render, Operand.asText, String.toList_append, List.append_assoc,
      noPath _ spelled, castWord, Operand.value?_own spelled, dropPrefix?_own, cast,
      Option.bind_eq_bind, Option.bind_some]
  | whole j => simp only [view?, View.render, Operand.value?_own spelled]

theorem measure?_own {m : Measure} (spelled : m.Spelled) (rest : List Char) :
    measure? (m.render.toList ++ rest) = some (m, rest) := by
  cases m with
  | byKind j arms otherwise =>
    obtain ⟨value, present, few⟩ := spelled
    have word : ∀ cs, word? measureWords ("CASE ".toList ++ ("jsonb_typeof(".toList ++ cs)) =
        some (.kinds, cs) := fun cs => by simp [word?, measureWords, List.dropPrefix?]
    have opened : ∀ cs, (")".toList ++ (" WHEN ".toList ++ cs)).dropPrefix? ") WHEN ".toList =
        some cs := fun cs => dropPrefix?_own _ cs
    have listed := separated?_intercalate " WHEN " (StartsOutside isDigit)
      (fun _ => by simp [StartsOutside, isDigit]) present
      (fun arm _ _ outside => arm?_own arm outside) kinds.length few
      (" ELSE ".toList ++ ((toString otherwise).toList ++ (" END".toList ++ rest)))
      (by simp [StartsOutside, isDigit]) rfl
    have last := number?_own otherwise (" END".toList ++ rest) (by simp [StartsOutside, isDigit])
    simp only [measure?, Measure.render, Operand.typeName, String.toList_append, List.append_assoc,
      word, Operand.value?_own value, opened, listed, dropPrefix?_own, last, Option.bind_eq_bind,
      Option.bind_some]
  | guarded guards view =>
    obtain ⟨present, few, each, viewed⟩ := spelled
    have word : ∀ cs, word? measureWords ("CASE WHEN ".toList ++ cs) = some (.guards, cs) :=
      fun cs => by simp [word?, measureWords, List.dropPrefix?]
    have listed := separated?_intercalate " AND " (fun _ => True) (fun _ => trivial) present
      (fun g member rest _ => guard?_own (each g member) rest) 2 few
      (" THEN ".toList ++ (view.render.toList ++ (" END".toList ++ rest))) trivial rfl
    simp only [measure?, Measure.render, String.toList_append, List.append_assoc, word, listed,
      dropPrefix?_own, view?_own viewed, Option.bind_eq_bind, Option.bind_some]
  | sequence => simp [measure?, Measure.render, word?, measureWords, List.dropPrefix?]

/-- What follows a criterion is not taken for a place of nulls. -/
def Ends (rest : List Char) : Prop := word? nullsWords rest = none

theorem criterion?_own {c : Criterion} (spelled : c.measure.Spelled) (rest : List Char)
    (ends : Ends rest) : criterion? (c.render.toList ++ rest) = some (c, rest) := by
  obtain ⟨measure, descending, nulls⟩ := c
  have direction : ∀ cs, word? directions
      ((if descending = true then " DESC" else " ASC").toList ++ cs) = some (descending, cs) := by
    cases descending <;> simp [word?, directions, List.dropPrefix?]
  have placed : (word? nullsWords (nulls.render.toList ++ rest)).getD
      (.unsaid, nulls.render.toList ++ rest) = (nulls, rest) := by
    cases nulls with
    | unsaid => simp [Nulls.render, show word? nullsWords rest = none from ends]
    | first => simp [Nulls.render, word?, nullsWords, List.dropPrefix?]
    | last => simp [Nulls.render, word?, nullsWords, List.dropPrefix?]
  simp only [criterion?, Criterion.render, String.toList_append, List.append_assoc,
    measure?_own spelled, direction, placed, Option.bind_eq_bind, Option.bind_some]

/-! What the columns of a sort order compute -/

def Column.measure : Column → Measure
  | .kind j =>
    .byKind j [(.string, 1), (.number, 2), (.boolean, 3), (.array, 4), (.object, 5)] 0
  | .date j => .guarded [.ofKind j [.string]] (.date j)
  | .text j => .guarded [.ofKind j [.string], .undated j] (.text j)
  | .number j => .guarded [.ofKind j [.number]] (.float j)
  | .other j => .guarded [.ofKind j [.boolean, .array, .object]] (.whole j)
  | .sequence => .sequence

theorem Column.render_measure (c : Column) : c.measure.render = c.render := by
  cases c with
  | kind j =>
    unfold Column.render
    simp only [Column.measure, Measure.render, String.append_assoc]
    rfl
  | date | text | number | other =>
    unfold Column.render
    simp only [Column.measure, Measure.render, Guard.render, View.render, List.map,
      String.intercalate_singleton, String.intercalate_cons_cons, String.append_assoc]
    rfl
  | sequence => rfl

def SortTerm.criterion (t : SortTerm) : Criterion := ⟨t.column.measure, t.descending, t.nulls⟩

theorem SortTerm.render_criterion (t : SortTerm) : t.criterion.render = t.render := by
  rw [Criterion.render, SortTerm.criterion, Column.render_measure, SortTerm.render]

def Column.IsSpelled : Column → Prop
  | .kind j | .date j | .text j | .number j | .other j => j.IsValue
  | .sequence => True

theorem Column.measure_spelled {c : Column} (spelled : c.IsSpelled) : c.measure.Spelled := by
  have guard : ∀ j : Operand, j.IsValue → ∀ k ks, ks.length < kinds.length →
      (Guard.ofKind j (k :: ks)).Spelled := fun j value k ks few => ⟨value, by simp, few⟩
  cases c with
  | kind j => exact ⟨spelled, by simp, by simp [kinds]⟩
  | date j => exact ⟨by simp, by simp, by simpa using guard j spelled _ _ (by decide), spelled⟩
  | text j =>
    exact ⟨by simp, by simp, by simpa using ⟨guard j spelled _ _ (by decide), spelled⟩, spelled⟩
  | number j => exact ⟨by simp, by simp, by simpa using guard j spelled _ _ (by decide), spelled⟩
  | other j => exact ⟨by simp, by simp, by simpa using guard j spelled _ _ (by decide), spelled⟩
  | sequence => trivial

theorem Criterion.length_pos (c : Criterion) : 0 < c.render.length := by
  have word : 0 < (if c.descending then " DESC" else " ASC").length := by split <;> decide
  rw [Criterion.render, String.length_append, String.length_append]
  omega

theorem length_criteria_le (criteria : List Criterion) :
    criteria.length ≤ (", ".intercalate (criteria.map Criterion.render)).length := by
  induction criteria with
  | nil => simp
  | cons c rest ih =>
    have first := c.length_pos
    cases rest with
    | nil => simpa using Nat.succ_le_of_lt first
    | cons next rest =>
      simp only [List.map_cons, String.intercalate_cons_cons, String.length_append,
        List.length_cons] at ih ⊢
      omega

/-- The text of a sort order reads back as its criteria. -/
theorem readOrder?_own {terms : List SortTerm} (present : terms ≠ [])
    (each : ∀ t ∈ terms, t.column.IsSpelled) :
    readOrder? (renderOrder terms) = some (terms.map SortTerm.criterion) := by
  have text : renderOrder terms =
      ", ".intercalate ((terms.map SortTerm.criterion).map Criterion.render) := by
    rw [renderOrder, List.map_map]
    refine congrArg _ (List.map_congr_left fun t _ => ?_)
    exact t.render_criterion.symm
  have spelled : ∀ c ∈ terms.map SortTerm.criterion, c.measure.Spelled := by
    simp only [List.forall_mem_map]
    exact fun t member => Column.measure_spelled (each t member)
  have between : ∀ rest, Ends (", ".toList ++ rest) := fun rest => by
    simp [Ends, word?, nullsWords, List.dropPrefix?]
  have back := separated?_intercalate ", " Ends between (by simpa using present)
    (fun c member rest ends => criterion?_own (spelled c member) rest ends) _
    (length_criteria_le _) [] rfl rfl
  rw [List.append_nil, ← text] at back
  simp only [readOrder?, String.length_toList, back]

end Catalog.Sql
