import Catalog.Proofs.Sql.ReadBack
import Catalog.Proofs.Sql.Selection

/-!
The text that a filter is translated to selects what the filter selects. The conditions of filters
are among those the reader has words for, so their text reads back; what comes back has the
outcome of the condition, and that decides the filter.
-/
namespace Catalog.Sql

open Json Condition

namespace Row

variable {r : Row} {element : Option Value}

mutual

theorem truth_flat (r : Row) (element : Option Value) (c : Condition) :
    r.truth element c.flat = r.truth element c := by
  match c with
  | .all parts => rw [flat, truth_joined_all, truths_flats, truth_all]
  | .any parts => rw [flat, truth_joined_any, truths_flats, truth_any]
  | .choose test yes no =>
    simp only [flat, truth_choose, truth_flat r element test, truth_flat r element yes,
      truth_flat r element no]
  | .exists source test => simp only [flat, truth_exists, fun v => truth_flat r v test]
  | .always | .never | .isKind .. | .equals .. | .date .. | .float .. | .text .. | .bool ..
  | .regex .. => rfl

theorem truths_flats (r : Row) (element : Option Value) (parts : List Condition) :
    r.truths element (flats parts) = r.truths element parts := by
  match parts with
  | [] => rfl
  | c :: rest => rw [flats, truths_cons, truths_cons, truth_flat, truths_flats]

end

end Row

/-! The conditions of filters are spelled. -/

section Spelled

variable {j : Operand} {p : Placeholder}

theorem equality_spelled (v : Value) (tested : j.IsTested) : (equality v j p).Spelled := by
  cases date : v.instant? with
  | some t =>
    simp only [equality, date]
    refine .all (by simp) ?_
    simpa using ⟨.isKind .string tested, .date .eq p tested⟩
  | none =>
    simp only [equality, date]
    exact .equals p tested

theorem matching_spelled (tested : j.IsTested) : (matching j p).Spelled := by
  refine .all (by simp) ?_
  simpa using ⟨.isKind .string tested, .regex p tested⟩

theorem inElements_spelled {test : Condition} (value : j.IsValue) (spelled : test.Spelled) :
    (inElements j test).Spelled := .look value spelled

theorem range_spelled (c : Comparison) (bound : Value) (tested : j.IsTested) :
    (range j c bound p).1.Spelled := by
  cases date : bound.instant? with
  | some t =>
    simp only [range, date]
    refine .all (by simp) ?_
    simpa using ⟨.isKind .string tested, .date c p tested⟩
  | none =>
    cases bound with
    | number n =>
      simp only [range, date]
      exact .choose (.isKind .number tested) (.float c p tested) .never
    | text s =>
      simp only [range, date]
      refine .all (by simp) ?_
      simpa using ⟨.isKind .string tested, .text c p tested⟩
    | bool b =>
      simp only [range, date]
      exact .choose (.isKind .boolean tested) (.bool c p tested) .never
    | null | array | object =>
      simp only [range, date]
      exact .never

theorem itemTests_spelled (items : List Query.Item) (p : Placeholder) (tested : j.IsTested) :
    ∀ c ∈ itemTests j p items, c.Spelled := by
  induction items generalizing p with
  | nil => simp [itemTests]
  | cons item items ih =>
    have first : (itemTest j item p).Spelled := by
      cases item with
      | value v => exact equality_spelled v tested
      | pattern => exact matching_spelled tested
    simpa [itemTests] using ⟨first, ih (p + 1)⟩

theorem condition_spelled (n : Placeholder) {c : Query.Condition} (live : neverHolds c = false) :
    (condition n c).1.Spelled := by
  have atPath : (Operand.path n).IsValue := trivial
  have whole : (Operand.path n).IsTested := trivial
  have present : (Operand.orNull (.path n)).IsTested := trivial
  have each : Operand.element.IsTested := trivial
  cases c with
  | eq v =>
    have compound : (equality v (.orNull (.path n)) (n + 1)).Spelled :=
      equality_spelled v present
    have scalar : (Condition.any [equality v (.orNull (.path n)) (n + 1),
        inElements (.path n) (equality v .element (n + 1))]).Spelled := by
      refine .any (by simp) ?_
      simpa using ⟨compound, inElements_spelled atPath (equality_spelled v each)⟩
    cases v with
    | array | object => exact compound
    | null | bool | number | text => exact scalar
  | regex pattern =>
    refine .any (by simp) ?_
    simpa using ⟨matching_spelled whole, inElements_spelled atPath (matching_spelled each)⟩
  | gte bound => exact range_spelled .gte bound whole
  | lt bound => exact range_spelled .lt bound whole
  | oneOf items =>
    have some_left : ∀ j p, itemTests j p items ≠ [] := by
      cases items with
      | nil => simp [neverHolds] at live
      | cons => simp [itemTests]
    exact .choose (.isKind .array whole)
      (.look atPath (.any (some_left _ _) (itemTests_spelled items (n + 1) each)))
      (.any (some_left _ _) (itemTests_spelled items (n + 1) present))

theorem joined_all_spelled {parts : List Condition} (each : ∀ c ∈ parts, c.Spelled) :
    (joined .all .always parts).Spelled := by
  match parts with
  | [] => exact .always
  | [c] => exact each c List.mem_cons_self
  | _ :: _ :: _ => exact .all (by simp) each

theorem joined_any_spelled {parts : List Condition} (each : ∀ c ∈ parts, c.Spelled) :
    (joined .any .never parts).Spelled := by
  match parts with
  | [] => exact .never
  | [c] => exact each c List.mem_cons_self
  | _ :: _ :: _ => exact .any (by simp) each

mutual

theorem filterParts_spelled (n : Nat) (clauses : List Query.Clause) :
    ∀ c ∈ (filterParts n clauses).1, c.Spelled := by
  match clauses with
  | [] => simp [filterParts]
  | clause :: rest =>
    have first := clause_spelled n clause
    have others := filterParts_spelled (n + (clauseCondition n clause).2.length) rest
    simpa [filterParts] using ⟨first, others⟩

theorem clause_spelled (n : Nat) (clause : Query.Clause) :
    (clauseCondition n clause).1.Spelled := by
  match clause with
  | .field path c =>
    cases live : neverHolds c with
    | true =>
      simp only [clauseCondition, live, if_true]
      exact .never
    | false =>
      simp only [clauseCondition, live, Bool.false_eq_true, if_false]
      exact condition_spelled (n + 1) live
  | .either alternatives =>
    simp only [clauseCondition]
    exact joined_any_spelled (alternativeParts_spelled n alternatives)

theorem alternativeParts_spelled (n : Nat) (alternatives : List (List Query.Clause)) :
    ∀ c ∈ (alternativeParts n alternatives).1, c.Spelled := by
  match alternatives with
  | [] => simp [alternativeParts]
  | f :: rest =>
    have first := joined_all_spelled (filterParts_spelled n f)
    have others := alternativeParts_spelled (n + (filterParts n f).2.length) rest
    simpa [alternativeParts] using ⟨first, others⟩

end

theorem ofFilter_spelled (n : Nat) (f : Query.Filter) : (ofFilter n f).1.Spelled :=
  joined_all_spelled (filterParts_spelled n f)

end Spelled

/-- The text of a filter's condition, read and evaluated over a document with the parameters in
their places, never fails, and it is true exactly if the filter selects the document. -/
theorem translation_selects (e : Engine) (faithful : e.Faithful) (f : Query.Filter)
    (runs : ∀ pattern ∈ Query.patterns f, e.Runs pattern) (before after : List Param)
    (doc : Value) :
    ∃ c, read? (ofFilter before.length f).1.render = some c ∧
      Row.truth ⟨e, before ++ (ofFilter before.length f).2 ++ after, doc⟩ none c ≠ .fails ∧
      (Row.truth ⟨e, before ++ (ofFilter before.length f).2 ++ after, doc⟩ none c = .yes ↔
        Query.selects f doc = true) := by
  have decided := Row.ofFilter_decides (r := ⟨e, before ++ (ofFilter before.length f).2 ++ after,
    doc⟩) faithful f before.length runs (Row.binds_appended e before _ after doc)
  rw [← Row.truth_flat] at decided
  exact ⟨_, read?_own (ofFilter_spelled before.length f), decided⟩

/-- An engine that reads, compares and matches as is done in memory, for one pattern. -/
def inMemory (pattern : Pattern) : Engine where
  extract := Document.select
  asText := Value.text?
  equals := Query.equal
  date := Time.Instant.parse?
  compareFloat n x := n.toBinary64.compare x
  collate := Query.compareText
  matchesAre text are := are == pattern.are && pattern.isMatch text

theorem inMemory_faithful (pattern : Pattern) : (inMemory pattern).Faithful where
  extract_eq _ _ := rfl
  asText_eq _ := rfl
  equals_eq _ _ _ := rfl
  date_eq _ := rfl
  compareFloat_eq _ _ := rfl
  collate_eq _ _ := rfl

theorem inMemory_runs (pattern : Pattern) : (inMemory pattern).Runs pattern := by
  intro text
  simp [inMemory]

/-- The pattern of texts that begin with the letter a. -/
def startingWithA : Pattern where
  source := "^a"
  options := ""
  matcher := .seq (.look .textStart)
    (.seq (.char (.member ⟨true, false⟩ false (.literal ⟨'a', false⟩))) .empty)
  are := "(?s)^a"

/-- A filter with a pattern among nested alternatives, a date and a list of nothing. -/
def nestedFilter : Query.Filter :=
  [.either [[.field "title" (.regex startingWithA), .field "dates.close" (.lt (.text "2030-01-01"))],
      [.field "title" (.oneOf [])], [.either []]],
    .field "status" (.eq (.text "open"))]

/-- A document with the given title that closes in time and is open. -/
def closing (title : String) : Value :=
  .object [("dates", .object [("close", .text "2029-06-01")]), ("status", .text "open"),
    ("title", .text title)]

theorem nestedFilter_runs : ∀ pattern ∈ Query.patterns nestedFilter,
    (inMemory startingWithA).Runs pattern := by
  intro pattern member
  have only : pattern = startingWithA := by
    simpa [nestedFilter, Query.patterns, Query.clausePatterns, Query.alternativePatterns,
      Query.Condition.patterns] using member
  rw [only]
  exact inMemory_runs startingWithA

/-- The pattern decides: of two documents that differ in their titles one is selected. -/
theorem translation_selects_nested : ∃ c, read? (ofFilter 1 nestedFilter).1.render = some c ∧
    Row.truth ⟨inMemory startingWithA, [.int 0] ++ (ofFilter 1 nestedFilter).2 ++ [],
      closing "art fair"⟩ none c = .yes ∧
    Row.truth ⟨inMemory startingWithA, [.int 0] ++ (ofFilter 1 nestedFilter).2 ++ [],
      closing "book fair"⟩ none c ≠ .yes ∧
    Row.truth ⟨inMemory startingWithA, [.int 0] ++ (ofFilter 1 nestedFilter).2 ++ [],
      closing "book fair"⟩ none c ≠ .fails := by
  have selected : Query.selects nestedFilter (closing "art fair") = true := by decide +kernel
  have passed : Query.selects nestedFilter (closing "book fair") = false := by decide +kernel
  obtain ⟨c, read, -, first⟩ := translation_selects (inMemory startingWithA) (inMemory_faithful _)
    nestedFilter nestedFilter_runs [.int 0] [] (closing "art fair")
  obtain ⟨d, readAgain, runs, second⟩ := translation_selects (inMemory startingWithA)
    (inMemory_faithful _) nestedFilter nestedFilter_runs [.int 0] [] (closing "book fair")
  cases read.symm.trans readAgain
  refine ⟨c, read, first.mpr selected, fun yes => ?_, runs⟩
  rw [second.mp yes] at passed
  cases passed

end Catalog.Sql
