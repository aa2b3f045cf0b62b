import Catalog.Proofs.Sql.OrderReading
import Catalog.Proofs.Sql.Translation

/-!
The order of rows is the order of documents. A sort key becomes five columns: the kinds first, then
one column for each way of comparing, with the null in every row that compares another way. For
values that are neither arrays nor objects this is the order in memory, in both directions.
-/
namespace Catalog.Sql

open Json

/-- Nothing, or any value but an array or an object. -/
def Simple : Option Value → Prop
  | some (.array _) | some (.object _) => False
  | _ => True

instance : DecidablePred Simple
  | none | some .null | some (.bool _) | some (.number _) | some (.text _) => isTrue trivial
  | some (.array _) | some (.object _) => isFalse id

def undated? (s : String) : Option String :=
  if (Time.Instant.parse? s).isNone then some s else none

def numberOf : Value → Option Number
  | .number n => some n
  | _ => none

def wholeOf : Value → Option Value
  | .null | .text _ | .number _ => none
  | v => some v

/-- What a column about a value holds. -/
def Column.cell (v : Option Value) : Column → Option Cell
  | .kind _ => some (.int (Query.rank v))
  | .date _ => (v.bind Value.instant?).map .date
  | .text _ => ((v.bind Value.text?).bind undated?).map .text
  | .number _ => (v.bind numberOf).map .float
  | .other _ => (v.bind wholeOf).map .json
  | .sequence => none

/-- The order of two cells in an ascending column with the nulls last. -/
def Sorter.compareUp (e : Sorter) : Option Cell → Option Cell → Option Ordering
  | none, none => some .eq
  | none, some _ => some .gt
  | some _, none => some .lt
  | some x, some y => e.compareCells x y

/-- The order of two values by some columns, one after the other. -/
def Sorter.compareColumns (e : Sorter) (x y : Option Value) : List Column → Option Ordering
  | [] => some .eq
  | c :: rest => do
    let first ← e.compareUp (c.cell x) (c.cell y)
    let others ← e.compareColumns x y rest
    some (first.then others)

def keyColumns (j : Operand) : List Column := [.kind j, .date j, .text j, .number j, .other j]

variable {e : Sorter} {j : Operand} {x y : Option Value}

theorem compareUp_defined (e : Sorter) (c : Column) (x y : Option Value) :
    ∃ order, e.compareUp (c.cell x) (c.cell y) = some order := by
  have typed : ∀ {α : Type} (cell : α → Cell) (left right : Option α),
      (∀ a b, ∃ order, e.compareCells (cell a) (cell b) = some order) →
      ∃ order, e.compareUp (left.map cell) (right.map cell) = some order := by
    intro α cell left right each
    cases left <;> cases right <;> simp [Sorter.compareUp, each]
  cases c with
  | kind => exact ⟨_, rfl⟩
  | date => exact typed .date _ _ fun _ _ => ⟨_, rfl⟩
  | text => exact typed .text _ _ fun _ _ => ⟨_, rfl⟩
  | number => exact typed .float _ _ fun _ _ => ⟨_, rfl⟩
  | other => exact typed .json _ _ fun _ _ => ⟨_, rfl⟩
  | sequence => exact ⟨.eq, rfl⟩

theorem compareColumns_defined (e : Sorter) (x y : Option Value) (columns : List Column) :
    ∃ order, e.compareColumns x y columns = some order := by
  induction columns with
  | nil => exact ⟨.eq, rfl⟩
  | cons c rest ih =>
    obtain ⟨first, defined⟩ := compareUp_defined e c x y
    obtain ⟨others, rest_defined⟩ := ih
    exact ⟨first.then others, by simp [Sorter.compareColumns, defined, rest_defined]⟩

theorem compare_of_rank_ne (differ : Query.rank x ≠ Query.rank y) :
    Query.compare x y = Ord.compare (Query.rank x) (Query.rank y) := by
  rcases x with _ | x
  · cases y <;> rfl
  rcases y with _ | y
  · rfl
  cases x <;> cases y <;>
    first | exact absurd rfl differ | simp [Query.compare, Query.compareValues]

theorem simple_of_rank_eq (simple : Simple x) (same : Query.rank x = Query.rank y) :
    ((x = none ∨ x = some .null) ∧ (y = none ∨ y = some .null)) ∨
      (∃ s t, x = some (.text s) ∧ y = some (.text t)) ∨
      (∃ m n, x = some (.number m) ∧ y = some (.number n)) ∨
      ∃ p q, x = some (.bool p) ∧ y = some (.bool q) := by
  rcases x with _ | (_ | _ | _ | _ | _ | _) <;> rcases y with _ | (_ | _ | _ | _ | _ | _) <;>
    simp_all [Query.rank, Simple]

theorem compareColumns_texts (faithful : e.Faithful) (s t : String) :
    e.compareColumns (some (.text s)) (some (.text t)) (keyColumns j) =
      some (Query.compareSorted s t) := by
  cases first : Time.Instant.parse? s <;> cases second : Time.Instant.parse? t <;>
    simp [keyColumns, Sorter.compareColumns, Column.cell, Sorter.compareUp, Sorter.compareCells,
      Query.rank, Value.instant?, Value.text?, undated?, numberOf, wholeOf, Query.compareSorted,
      faithful.collate_eq, first, second]

/-- The columns of a key put simple values in their order. -/
theorem compareColumns_key (faithful : e.Faithful) (simple : Simple x) :
    e.compareColumns x y (keyColumns j) = some (Query.compare x y) := by
  have kinds : e.compareUp ((Column.kind j).cell x) ((Column.kind j).cell y) =
      some (Ord.compare (Query.rank x) (Query.rank y)) := rfl
  by_cases same : Query.rank x = Query.rank y
  -- Within one kind a single column holds anything; two kinds differ in the first column already.
  · rcases simple_of_rank_eq simple same with ⟨left, right⟩ | ⟨s, t, rfl, rfl⟩ |
      ⟨m, n, rfl, rfl⟩ | ⟨p, q, rfl, rfl⟩
    · rcases left with rfl | rfl <;> rcases right with rfl | rfl <;> rfl
    · rw [compareColumns_texts faithful, Query.compare, Query.compareValues]
    · simp [keyColumns, Sorter.compareColumns, Column.cell, Sorter.compareUp, Sorter.compareCells,
        Query.rank, Value.instant?, Value.text?, numberOf, wholeOf, Query.compare,
        Query.compareValues, faithful.compareFloats_eq]
    · simp [keyColumns, Sorter.compareColumns, Column.cell, Sorter.compareUp, Sorter.compareCells,
        Query.rank, Value.instant?, Value.text?, numberOf, wholeOf, Query.compare,
        Query.compareValues, faithful.compareJson_eq]
  · obtain ⟨others, defined⟩ := compareColumns_defined e x y
      [.date j, .text j, .number j, .other j]
    have decided : Ord.compare (Query.rank x) (Query.rank y) ≠ .eq :=
      fun tie => same (Nat.compare_eq_eq.mp tie)
    rw [keyColumns, Sorter.compareColumns, kinds, defined, compare_of_rank_ne same]
    cases order : Ord.compare (Query.rank x) (Query.rank y) with
    | lt | gt => rfl
    | eq => exact absurd order decided

/-! Rows whose values at the paths of the keys are known -/

section Rows

variable {bound : List Param} {a b : Stored} {p : Placeholder}

section Cells

variable {r : Row} {v : Option Value}

/-- A view behind a test of the kind is only taken of values of the kinds. -/
theorem cell_ofKind (seq : Nat) (at_operand : r.operand none j = some v) (ks : List Kind)
    (view : View) :
    r.cell seq (.guarded [.ofKind j ks] view) =
      if v.any fun v => ks.any fun k => k.is v then r.viewed view else some none := by
  cases v with
  | none => simp [Row.cell, Row.holds, Row.check, at_operand, Truth.all, Truth.and]
  | some v =>
    cases kind : ks.any fun k => k.is v <;>
      simp [Row.cell, Row.holds, Row.check, at_operand, Truth.all, Truth.and, Truth.ofBool, kind]

theorem cell_undated (seq : Nat) (at_operand : r.operand none j = some v) (ks : List Kind)
    (view : View) :
    r.cell seq (.guarded [.ofKind j ks, .undated j] view) =
      if (v.any fun v => ks.any fun k => k.is v) &&
        ((v.bind r.engine.asText).bind r.engine.date).isNone
      then r.viewed view else some none := by
  cases v with
  | none => simp [Row.cell, Row.holds, Row.check, at_operand, Truth.all, Truth.and, Truth.ofBool]
  | some v =>
    cases kind : ks.any fun k => k.is v <;>
      cases undated : ((r.engine.asText v).bind r.engine.date).isNone <;>
        simp [Row.cell, Row.holds, Row.check, at_operand, Truth.all, Truth.and, Truth.ofBool, kind,
          undated]

end Cells

/-- The columns of a key hold what they are meant to; none of their casts fails. -/
theorem cell_measure (faithful : e.Faithful) {doc : Value} {v : Option Value} (seq : Nat)
    (at_operand : Row.operand ⟨e.toEngine, bound, doc⟩ none j = some v) {c : Column}
    (member : c ∈ keyColumns j) :
    Row.cell ⟨e.toEngine, bound, doc⟩ seq c.measure = some (c.cell v) := by
  simp only [keyColumns, List.mem_cons, List.not_mem_nil, or_false] at member
  -- Each view is safe because its guards let only values of the right kind through.
  rcases member with rfl | rfl | rfl | rfl | rfl
  · simp only [Column.measure, Row.cell, at_operand, Option.map_some, Column.cell]
    cases v with
    | none => rfl
    | some v => cases v <;> rfl
  · rw [Column.measure, cell_ofKind seq at_operand]
    rcases v with _ | (_ | _ | _ | s | _ | _) <;>
      simp [Kind.is, Row.viewed, at_operand, Column.cell, Value.instant?, faithful.asText_eq,
        faithful.date_eq]
  · rw [Column.measure, cell_undated seq at_operand]
    rcases v with _ | (_ | _ | _ | s | _ | _)
    · rfl
    · rfl
    · rfl
    · rfl
    · cases read : Time.Instant.parse? s <;>
        simp [Kind.is, Row.viewed, at_operand, Column.cell, Value.text?, undated?,
          faithful.asText_eq, faithful.date_eq, read]
    · rfl
    · rfl
  · rw [Column.measure, cell_ofKind seq at_operand]
    rcases v with _ | (_ | _ | _ | _ | _ | _) <;>
      simp [Kind.is, Row.viewed, at_operand, Column.cell, numberOf]
  · rw [Column.measure, cell_ofKind seq at_operand]
    rcases v with _ | (_ | _ | _ | _ | _ | _) <;>
      simp [Kind.is, Row.viewed, at_operand, Column.cell, wholeOf]

theorem compareBy_along {c : Criterion} (along : c.nullsFirst = c.descending)
    (x y : Option Cell) : c.compareBy e x y = (e.compareUp x y).map c.directed := by
  cases x <;> cases y <;> cases c.descending <;>
    simp_all [Criterion.compareBy, Criterion.directed, Sorter.compareUp]

/-- Columns that all run in one direction, nulls included, run as a whole in that direction. -/
theorem compareRows_terms {descending : Bool} {terms : List SortTerm} {rest : List Criterion}
    (along : ∀ t ∈ terms, t.descending = descending ∧ t.criterion.nullsFirst = descending)
    (cells_a : ∀ t ∈ terms,
      Row.cell ⟨e.toEngine, bound, a.1⟩ a.2 t.column.measure = some (t.column.cell x))
    (cells_b : ∀ t ∈ terms,
      Row.cell ⟨e.toEngine, bound, b.1⟩ b.2 t.column.measure = some (t.column.cell y))
    {own others : Ordering} (decided : e.compareColumns x y (terms.map SortTerm.column) = some own)
    (remaining : compareRows e bound a b rest = some others) :
    compareRows e bound a b (terms.map SortTerm.criterion ++ rest) =
      some ((if descending then own.swap else own).then others) := by
  induction terms generalizing own with
  | nil =>
    cases decided
    cases descending <;> simpa using remaining
  | cons t terms ih =>
    obtain ⟨first, first_decided⟩ := compareUp_defined e t.column x y
    obtain ⟨later, later_decided⟩ := compareColumns_defined e x y (terms.map SortTerm.column)
    have whole : own = first.then later := by
      simpa [Sorter.compareColumns, first_decided, later_decided] using decided.symm
    have tail := ih (fun t member => along t (List.mem_cons_of_mem _ member))
      (fun t member => cells_a t (List.mem_cons_of_mem _ member))
      (fun t member => cells_b t (List.mem_cons_of_mem _ member)) later_decided
    obtain ⟨direction, nulls⟩ := along t List.mem_cons_self
    have here : t.criterion.compareBy e (t.column.cell x) (t.column.cell y) =
        some (if descending then first.swap else first) := by
      rw [compareBy_along (nulls.trans direction.symm), first_decided, Option.map_some,
        Criterion.directed, SortTerm.criterion, direction]
    simp only [List.map_cons, List.cons_append, compareRows]
    rw [show t.criterion.measure = t.column.measure from rfl, cells_a t List.mem_cons_self,
      cells_b t List.mem_cons_self]
    simp only [Option.bind_eq_bind, Option.bind_some, here, tail, whole, Option.some_inj]
    cases descending with
    | false => simp [Ordering.then_assoc]
    | true => simp [Ordering.then_assoc, Ordering.swap_then]

theorem compareRows_key (faithful : e.Faithful) (d : Query.Direction) {rest : List Criterion}
    (at_a : Row.operand ⟨e.toEngine, bound, a.1⟩ none (.path p) = some x)
    (at_b : Row.operand ⟨e.toEngine, bound, b.1⟩ none (.path p) = some y) (simple : Simple x)
    {others : Ordering} (remaining : compareRows e bound a b rest = some others) :
    compareRows e bound a b ((keyTerms p d).map SortTerm.criterion ++ rest) =
      some ((Query.Ranking.directed d (Query.compare x y)).then others) := by
  have columns : (keyTerms p d).map SortTerm.column = keyColumns (.path p) := by cases d <;> rfl
  have member : ∀ t ∈ keyTerms p d, t.column ∈ keyColumns (.path p) := by
    intro t listed
    rw [← columns]
    exact List.mem_map_of_mem listed
  have along : ∀ t ∈ keyTerms p d, t.descending = (d == .descending) ∧
      t.criterion.nullsFirst = (d == .descending) := by
    cases d <;> simp [keyTerms, SortTerm.criterion, Criterion.nullsFirst]
  have decided : e.compareColumns x y ((keyTerms p d).map SortTerm.column) =
      some (Query.compare x y) := by
    rw [columns]
    exact compareColumns_key faithful simple
  rw [compareRows_terms along
    (fun t listed => cell_measure faithful a.2 at_a (member t listed))
    (fun t listed => cell_measure faithful b.2 at_b (member t listed)) decided remaining]
  cases d <;> rfl

/-- What the keys of a sort order lead to is found by their paths. -/
def Sorter.Resolves (e : Sorter) (r : Query.Ranking) (doc : Value) : Prop :=
  ∀ key ∈ r, e.extract doc (segments key.path) = Document.resolve doc key.path

theorem compareRows_ranking (faithful : e.Faithful) (r : Query.Ranking) (n : Nat)
    (binds : ∀ doc, Row.Binds ⟨e.toEngine, bound, doc⟩ n (ofRanking n r).2)
    (resolves_a : e.Resolves r a.1) (resolves_b : e.Resolves r b.1)
    (simple : ∀ key ∈ r, Simple (Document.resolve a.1 key.path)) :
    compareRows e bound a b ((ofRanking n r).1.map SortTerm.criterion) =
      some ((r.compareDocuments a.1 b.1).then (Ord.compare a.2 b.2)) := by
  induction r generalizing n with
  | nil =>
    simp [ofRanking, SortTerm.criterion, Column.measure, compareRows, Row.cell,
      Criterion.compareBy, Sorter.compareCells, Criterion.directed, Query.Ranking.compareDocuments]
  | cons key rest ih =>
    have found : ∀ doc, e.Resolves (key :: rest) doc →
        Row.operand ⟨e.toEngine, bound, doc⟩ none (.path (n + 1)) =
          some (Document.resolve doc key.path) := by
      intro doc resolves
      have bound_here : Row.param? ⟨e.toEngine, bound, doc⟩ (n + 1) =
          some (.textArray (segments key.path)) := (binds doc).head
      rw [Row.operand, bound_here]
      exact congrArg some (resolves key List.mem_cons_self)
    have later := ih (n + 1) (fun doc => (binds doc).tail)
      (fun k member => resolves_a k (List.mem_cons_of_mem _ member))
      (fun k member => resolves_b k (List.mem_cons_of_mem _ member))
      fun k member => simple k (List.mem_cons_of_mem _ member)
    rw [ofRanking, List.map_append, compareRows_key faithful key.direction (found a.1 resolves_a)
      (found b.1 resolves_b) (simple key List.mem_cons_self) later, Query.Ranking.compareDocuments,
      Ordering.then_assoc]

end Rows

theorem ofRanking_spelled (n : Nat) (r : Query.Ranking) :
    ∀ t ∈ (ofRanking n r).1, t.column.IsSpelled := by
  induction r generalizing n with
  | nil => simp [ofRanking, Column.IsSpelled]
  | cons key rest ih =>
    intro t member
    rcases List.mem_append.mp member with own | later
    · cases direction : key.direction <;> rw [direction] at own <;>
        simp only [keyTerms, List.mem_cons, List.not_mem_nil, or_false] at own <;>
        rcases own with rfl | rfl | rfl | rfl | rfl <;> trivial
    · exact ih (n + 1) t later

theorem ofRanking_ne_nil (n : Nat) (r : Query.Ranking) : (ofRanking n r).1 ≠ [] := by
  cases r <;> simp [ofRanking, keyTerms]

/-- The text of a sort order, read and applied to two stored documents with the parameters in their
places, never fails; it puts the documents in the order of the keys and leaves ties in the order of
insertion. -/
theorem ordering_translates (e : Sorter) (faithful : e.Faithful) (r : Query.Ranking)
    (before after : List Param) (a b : Stored)
    (resolves : e.Resolves r a.1 ∧ e.Resolves r b.1)
    (simple : ∀ key ∈ r, Simple (Document.resolve a.1 key.path) ∧
      Simple (Document.resolve b.1 key.path)) :
    ∃ criteria, readOrder? (renderOrder (ofRanking before.length r).1) = some criteria ∧
      compareRows e (before ++ (ofRanking before.length r).2 ++ after) a b criteria =
        some ((r.compareDocuments a.1 b.1).then (Ord.compare a.2 b.2)) :=
  ⟨_, readOrder?_own (ofRanking_ne_nil _ r) (ofRanking_spelled _ r),
    compareRows_ranking faithful r before.length
      (fun doc => Row.binds_appended e.toEngine before _ after doc) resolves.1 resolves.2
      fun key member => (simple key member).1⟩

/-- A database that compares as is done in memory. -/
def comparing : Sorter where
  toEngine := inMemory startingWithA
  compareFloats x y := x.toBinary64.compare y.toBinary64
  compareJson
    | .bool a, .bool b => Query.compareBool a b
    | _, _ => .eq

theorem comparing_faithful : comparing.Faithful where
  asText_eq _ := rfl
  date_eq _ := rfl
  collate_eq _ _ := rfl
  compareFloats_eq _ _ := rfl
  compareJson_eq _ _ := rfl

/-- The latest closing dates first, then by title. -/
def byClosing : Query.Ranking := [⟨"close", .descending⟩, ⟨"title", .ascending⟩]

def dated : Value := .object [("close", .text "2026-01-02"), ("title", .text "B")]

def openEnded : Value := .object [("close", .text "soon")]

theorem ordering_translates_mixed :
    (∃ criteria, readOrder? (renderOrder (ofRanking 1 byClosing).1) = some criteria ∧
      compareRows comparing ([.int 0] ++ (ofRanking 1 byClosing).2 ++ []) (dated, 0)
        (openEnded, 1) criteria =
        some ((byClosing.compareDocuments dated openEnded).then (Ord.compare 0 1))) ∧
    (byClosing.compareDocuments dated openEnded).then (Ord.compare 0 1) = .gt := by
  exact ⟨ordering_translates comparing comparing_faithful byClosing [.int 0] [] (dated, 0)
    (openEnded, 1) ⟨fun _ _ => rfl, fun _ _ => rfl⟩ (by decide +kernel), by decide +kernel⟩

end Catalog.Sql
