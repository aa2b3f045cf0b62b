import Catalog.Proofs.Sql.Evaluation
import Catalog.Proofs.Time.Order

/-!
A condition selects the documents that its filter selects. Each kind of condition is settled on
its own, for every value that a path may lead to and for none; conjunctions and disjunctions then
follow the structure of the filter, and placeholders follow the order of binding.
-/
namespace Catalog

namespace Query

open Json

theorem equal_date (stored v : Value) (t : Time.Instant) (date : v.instant? = some t) :
    equal stored v = (stored.instant?.any fun x => x == t) := by
  cases read : stored.instant? with
  | some x => simp [equal, read, date]
  | none =>
    cases v with
    | text s =>
      cases stored with
      | text s' =>
        -- the same text would read as the same date
        have differ : s' ≠ s := by
          intro same
          subst same
          rw [read] at date
          cases date
        simp [equal, read, Value.same, differ]
      | null | bool | number | array | object => simp [equal, Value.instant?, Value.same]
    | null | bool | number | array | object => cases date

/-- The patterns that a condition tries. -/
def Condition.patterns : Condition → List Pattern
  | .regex p => [p]
  | .oneOf items => items.filterMap fun
    | .pattern p => some p
    | .value _ => none
  | _ => []

mutual

/-- The patterns of a filter, those of its alternatives included. -/
def patterns : List Clause → List Pattern
  | [] => []
  | clause :: rest => clausePatterns clause ++ patterns rest

def clausePatterns : Clause → List Pattern
  | .field _ condition => condition.patterns
  | .either alternatives => alternativePatterns alternatives

def alternativePatterns : List (List Clause) → List Pattern
  | [] => []
  | f :: rest => patterns f ++ alternativePatterns rest

end

end Query

namespace Sql

open Json

namespace Truth

/-- The outcome settles a question: it is no failure, and it is true exactly if the answer is. -/
def Decides (t : Truth) (b : Bool) : Prop := t ≠ .fails ∧ (t = .yes ↔ b = true)

theorem decides_ofBool (b : Bool) : (ofBool b).Decides b := by
  cases b <;> simp [Decides, ofBool]

theorem decides_unknown : unknown.Decides false := by simp [Decides]

theorem Decides.and {s t : Truth} {a b : Bool} (left : s.Decides a) (right : t.Decides b) :
    (s.and t).Decides (a && b) := by
  cases s <;> cases t <;> cases a <;> cases b <;> simp_all [Decides, Truth.and]

theorem Decides.or {s t : Truth} {a b : Bool} (left : s.Decides a) (right : t.Decides b) :
    (s.or t).Decides (a || b) := by
  cases s <;> cases t <;> cases a <;> cases b <;> simp_all [Decides, Truth.or]

theorem and_yes (t : Truth) : t.and .yes = t := by cases t <;> rfl

theorem or_no (t : Truth) : t.or .no = t := by cases t <;> rfl

theorem Decides.both {s t : Truth} {a b : Bool} (left : s.Decides a) (right : t.Decides b) :
    (all [s, t]).Decides (a && b) := by
  simpa [all, and_yes] using left.and right

theorem Decides.either {s t : Truth} {a b : Bool} (left : s.Decides a) (right : t.Decides b) :
    (any [s, t]).Decides (a || b) := by
  simpa [any, or_no] using left.or right

theorem decides_any {α : Type} (xs : List α) (t : α → Truth) (b : α → Bool)
    (each : ∀ x ∈ xs, (t x).Decides (b x)) : (any (xs.map t)).Decides (xs.any b) := by
  induction xs with
  | nil => simp [any, Decides]
  | cons x xs ih =>
    have head := each x List.mem_cons_self
    have tail := ih fun y member => each y (List.mem_cons_of_mem x member)
    simpa [any] using head.or tail

theorem decides_found {α : Type} (xs : List α) (t : α → Truth) (b : α → Bool)
    (each : ∀ x ∈ xs, (t x).Decides (b x)) : (found (xs.map t)).Decides (xs.any b) := by
  have h := decides_any xs t b each
  cases outcome : any (xs.map t) <;> simp_all [Decides, found]

end Truth

namespace Row

variable {r : Row} {element : Option Value} {j : Operand} {n : Nat}

/-- The parameters stand in the row after the first `n`. -/
def Binds (r : Row) (n : Nat) (params : List Param) : Prop :=
  ∀ i p, params[i]? = some p → r.param? (n + i + 1) = some p

theorem Binds.head {p : Param} {ps : List Param} (h : r.Binds n (p :: ps)) :
    r.param? (n + 1) = some p := h 0 p rfl

theorem Binds.tail {p : Param} {ps : List Param} (h : r.Binds n (p :: ps)) :
    r.Binds (n + 1) ps := by
  intro i q found
  have later := h (i + 1) q (by simpa using found)
  rwa [show n + (i + 1) + 1 = n + 1 + i + 1 by omega] at later

theorem Binds.left {ps qs : List Param} (h : r.Binds n (ps ++ qs)) : r.Binds n ps := by
  intro i p found
  have inside : i < ps.length := (List.getElem?_eq_some_iff.mp found).1
  exact h i p (by rw [List.getElem?_append_left inside, found])

theorem Binds.right {ps qs : List Param} (h : r.Binds n (ps ++ qs)) :
    r.Binds (n + ps.length) qs := by
  intro i q found
  have later := h (ps.length + i) q (by simpa [List.getElem?_append_right] using found)
  rwa [show n + (ps.length + i) + 1 = n + ps.length + i + 1 by omega] at later

theorem binds_appended (e : Engine) (before params after : List Param) (doc : Value) :
    Row.Binds ⟨e, before ++ params ++ after, doc⟩ before.length params := by
  intro i p found
  have inside : i < params.length := (List.getElem?_eq_some_iff.mp found).1
  have place : (before ++ params ++ after)[before.length + i]? = some p := by
    rw [List.append_assoc, List.getElem?_append_right (Nat.le_add_right _ _),
      Nat.add_sub_cancel_left, List.getElem?_append_left inside, found]
  exact place

theorem compared_ne_fails (c : Comparison) (order : Option Ordering) :
    compared c order ≠ .fails := by
  cases order with
  | none => simp [compared]
  | some o => cases h : c.holds o <;> simp [compared, Truth.ofBool, h]

theorem compared_decides (c : Comparison) (order : Option Ordering) :
    (compared c order).Decides (order.any c.holds) := by
  cases order with
  | none => exact Truth.decides_unknown
  | some o => exact Truth.decides_ofBool (c.holds o)

/-- A test of texts behind a test of the kind. The value may be absent, and on values of other
kinds the test may come to anything short of a failure. -/
theorem guarded_decides {value : Option Value} (at_operand : r.operand element j = some value)
    (test : Value → Truth) (b : String → Bool) (texts : ∀ s, (test (.text s)).Decides (b s))
    (safe : ∀ v, test v ≠ .fails) :
    (Truth.all [r.check element j fun v => .ofBool (Kind.string.is v),
      r.check element j test]).Decides ((value.bind Value.text?).any b) := by
  cases value with
  | none => simp [check, at_operand, Truth.all, Truth.and, Truth.Decides]
  | some v =>
    have outcome := safe v
    cases v with
    | text s =>
      have both := (Truth.decides_ofBool true).both (texts s)
      simpa [check, at_operand, Kind.is, Value.text?] using both
    | null | bool | number | array | object =>
      simp only [check, at_operand, Kind.is, Truth.ofBool]
      cases answer : test _ <;>
        simp_all [Truth.all, Truth.and, Truth.Decides, Value.text?]

section Guarded

variable {value : Option Value} {p : Placeholder}

theorem date_decides (faithful : r.engine.Faithful) (c : Comparison) {t : Time.Instant}
    (at_operand : r.operand element j = some value) (bound : r.param? p = some (.timestamp t)) :
    (r.truth element (.all [.isKind j .string, .date j c p])).Decides
      ((value.bind Value.instant?).any fun x => c.holds (x.compare t)) := by
  have texts : ∀ s, (r.dateTest c t (.text s)).Decides
      ((Time.Instant.parse? s).any fun x => c.holds (x.compare t)) := by
    intro s
    have h := compared_decides c ((Time.Instant.parse? s).map fun x => x.compare t)
    simpa [dateTest, faithful.asText_eq, faithful.date_eq, Option.any_map] using h
  have guarded := guarded_decides at_operand (r.dateTest c t) _ texts
    fun v => compared_ne_fails c _
  simp only [truth_all, truths_cons, truths_nil, truth_isKind, truth_date, bound]
  cases value with
  | none => exact guarded
  | some v => cases v <;> exact guarded

theorem text_decides (faithful : r.engine.Faithful) (c : Comparison) {s : String}
    (at_operand : r.operand element j = some value) (bound : r.param? p = some (.text s)) :
    (r.truth element (.all [.isKind j .string, .text j c p])).Decides
      ((value.bind Value.text?).any fun x => c.holds (Query.compareText x s)) := by
  have texts : ∀ x, (r.textTest c s (.text x)).Decides (c.holds (Query.compareText x s)) := by
    intro x
    have h := compared_decides c (some (Query.compareText x s))
    simpa [textTest, faithful.asText_eq, faithful.collate_eq] using h
  simp only [truth_all, truths_cons, truths_nil, truth_isKind, truth_text, bound]
  exact guarded_decides at_operand (r.textTest c s) _ texts fun v => compared_ne_fails c _

theorem regexTest_ne_fails (are : String) (v : Value) : r.regexTest are v ≠ .fails := by
  unfold regexTest
  cases r.engine.asText v with
  | none => simp
  | some s => cases h : r.engine.matchesAre s are <;> simp [Truth.ofBool, h]

theorem matching_decides (faithful : r.engine.Faithful) {pattern : Pattern}
    (runs : r.engine.Runs pattern) (at_operand : r.operand element j = some value)
    (bound : r.param? p = some (.text pattern.are)) :
    (r.truth element (matching j p)).Decides (value.any (Query.matchesText pattern)) := by
  have texts : ∀ s, (r.regexTest pattern.are (.text s)).Decides (pattern.isMatch s) := by
    intro s
    simpa [regexTest, faithful.asText_eq, runs s] using Truth.decides_ofBool (pattern.isMatch s)
  have guarded := guarded_decides at_operand (r.regexTest pattern.are) _ texts
    (regexTest_ne_fails pattern.are)
  simp only [matching, truth_all, truths_cons, truths_nil, truth_isKind, truth_regex, bound]
  cases value with
  | none => exact guarded
  | some v => cases v <;> exact guarded

/-- A test of values of one kind, with every other value turned away before it. -/
theorem chosen_decides {kind : Kind} {test : Condition} {b : Value → Bool}
    (at_operand : r.operand element j = some value)
    (inside : ∀ v, value = some v → kind.is v = true → (r.truth element test).Decides (b v))
    (outside : ∀ v, kind.is v = false → b v = false) :
    (r.truth element (.choose (.isKind j kind) test .never)).Decides (value.any b) := by
  cases value with
  | none => simp [truth_choose, truth_isKind, truth_never, check, at_operand, Truth.Decides]
  | some v =>
    cases same : kind.is v with
    | true =>
      simpa [truth_choose, truth_isKind, check, at_operand, same, Truth.ofBool]
        using inside v rfl same
    | false =>
      simp [truth_choose, truth_isKind, truth_never, check, at_operand, same, Truth.ofBool,
        outside v same, Truth.Decides]

theorem float_decides (faithful : r.engine.Faithful) (c : Comparison) {n : Number}
    (at_operand : r.operand element j = some value)
    (param : r.param? p = some (.float n.toBinary64)) :
    (r.truth element (.choose (.isKind j .number) (.float j c p) .never)).Decides
      (value.any fun v => (Query.compareToBound v (.number n)).any c.holds) := by
  refine chosen_decides at_operand (fun v held same => ?_) fun v other => ?_
  · subst held
    cases v with
    | number m =>
      have h := Truth.decides_ofBool (c.holds (m.toBinary64.compare n.toBinary64))
      simpa [truth_float, param, check, at_operand, floatTest, faithful.compareFloat_eq,
        Query.compareToBound, Value.instant?] using h
    | null | bool | text | array | object => cases same
  · cases v with
    | number => cases other
    | null | bool | text | array | object => simp [Query.compareToBound, Value.instant?]

theorem bool_decides (c : Comparison) {b : Bool} (at_operand : r.operand element j = some value)
    (param : r.param? p = some (.bool b)) :
    (r.truth element (.choose (.isKind j .boolean) (.bool j c p) .never)).Decides
      (value.any fun v => (Query.compareToBound v (.bool b)).any c.holds) := by
  refine chosen_decides at_operand (fun v held same => ?_) fun v other => ?_
  · subst held
    cases v with
    | bool a =>
      have h := Truth.decides_ofBool (c.holds (Query.compareBool a b))
      simpa [truth_bool, param, check, at_operand, boolTest, Query.compareToBound, Value.instant?]
        using h
    | null | number | text | array | object => cases same
  · cases v with
    | bool => cases other
    | null | number | text | array | object => simp [Query.compareToBound, Value.instant?]

theorem range_decides (faithful : r.engine.Faithful) (c : Comparison) {bound : Value}
    (simple : neverHolds (.gte bound) = false) (at_operand : r.operand element j = some value)
    (param : r.param? p = some (range j c bound p).2) :
    (r.truth element (range j c bound p).1).Decides
      ((value.bind fun v => Query.compareToBound v bound).any c.holds) := by
  cases date : bound.instant? with
  | some t =>
    have reads : (value.bind fun v => Query.compareToBound v bound) =
        (value.bind Value.instant?).map fun x => x.compare t := by
      cases value <;> simp [Query.compareToBound, date]
    simp only [range, date] at param ⊢
    rw [reads, Option.any_map]
    exact date_decides faithful c at_operand param
  | none =>
    cases bound with
    | null | array | object => cases simple
    | text s =>
      have reads : (value.bind fun v => Query.compareToBound v (.text s)) =
          (value.bind Value.text?).map fun x => Query.compareText x s := by
        cases value with
        | none => rfl
        | some v => cases v <;> simp [Query.compareToBound, date, Value.text?]
      simp only [range, date] at param ⊢
      rw [reads, Option.any_map]
      exact text_decides faithful c at_operand param
    | number n =>
      simp only [range, date] at param ⊢
      rw [Option.any_bind]
      exact float_decides faithful c at_operand param
    | bool b =>
      simp only [range, date] at param ⊢
      rw [Option.any_bind]
      exact bool_decides c at_operand param

/-- The elements that a look through a value finds. -/
def elementsOf : Option Value → List Value
  | some (.array items) => items
  | _ => []

theorem inElements_decides {test : Condition} {b : Value → Bool}
    (at_operand : r.operand element j = some value)
    (each : ∀ v, (r.truth (some v) test).Decides (b v)) :
    (r.truth element (inElements j test)).Decides ((elementsOf value).any b) := by
  have source : r.operand element (.arrayOrEmpty j) = some (some (.array (elementsOf value))) := by
    simp only [operand, at_operand, Option.map_some]
    cases value with
    | none => rfl
    | some v => cases v <;> rfl
  simp only [inElements, truth_exists, source]
  exact Truth.decides_found _ _ _ fun v _ => each v

end Guarded

section Present

variable {v : Value} {p : Placeholder}

theorem equality_decides (faithful : r.engine.Faithful) {expected : Value}
    (at_operand : r.operand element j = some (some v))
    (bound : r.param? p = some (equalityParam expected)) :
    (r.truth element (equality expected j p)).Decides (Query.equal v expected) := by
  cases date : expected.instant? with
  | some t =>
    simp only [equality, equalityParam, date] at bound ⊢
    have same : (fun x : Time.Instant => Comparison.eq.holds (x.compare t)) = fun x => x == t := by
      funext x
      rw [Bool.eq_iff_iff]
      simp [Comparison.holds, Time.Instant.compare_eq_eq]
    have h := date_decides faithful .eq at_operand bound
    rwa [same, Option.bind_some, ← Query.equal_date v expected t date] at h
  | none =>
    simp only [equality, equalityParam, date] at bound ⊢
    simp only [truth_equals, bound, check, at_operand, faithful.equals_eq v expected date]
    exact Truth.decides_ofBool _

theorem itemTest_decides (faithful : r.engine.Faithful) {item : Query.Item}
    (runs : ∀ pattern, item = .pattern pattern → r.engine.Runs pattern)
    (at_operand : r.operand element j = some (some v))
    (bound : r.param? p = some (itemParam item)) :
    (r.truth element (itemTest j item p)).Decides (item.admits v) := by
  cases item with
  | value expected => exact equality_decides faithful at_operand bound
  | pattern pattern =>
    have h := matching_decides faithful (runs pattern rfl) at_operand bound
    cases v <;> exact h

theorem itemTests_decide (faithful : r.engine.Faithful) {items : List Query.Item}
    (runs : ∀ pattern, .pattern pattern ∈ items → r.engine.Runs pattern)
    (at_operand : r.operand element j = some (some v))
    (bound : r.Binds n (items.map itemParam)) :
    (r.truth element (.any (itemTests j (n + 1) items))).Decides
      (items.any fun item => item.admits v) := by
  induction items generalizing n with
  | nil => simp [itemTests, truth_any, truths_nil, Truth.any, Truth.Decides]
  | cons item items ih =>
    have first := itemTest_decides faithful
      (fun pattern same => runs pattern (same ▸ List.mem_cons_self)) at_operand bound.head
    have rest := ih (fun pattern member => runs pattern (List.mem_cons_of_mem item member))
      bound.tail
    simpa [itemTests, truth_any, truths_cons, Truth.any] using first.or rest

end Present

section Conditions

variable {value : Option Value}

theorem orNull_present (at_path : r.operand none (.path n) = some value) :
    r.operand none (.orNull (.path n)) = some (some (value.getD .null)) := by
  simp only [operand] at at_path ⊢
  rw [at_path, Option.map_some]

theorem eq_decides (faithful : r.engine.Faithful) {expected : Value}
    (at_path : r.operand none (.path n) = some value)
    (bound : r.Binds n (condition n (.eq expected)).2) :
    (r.truth none (condition n (.eq expected)).1).Decides
      ((Query.Condition.eq expected).holds value) := by
  have param : r.param? (n + 1) = some (equalityParam expected) := bound.head
  have whole := equality_decides faithful (orNull_present at_path) param
  have elements := inElements_decides at_path fun v =>
    equality_decides faithful (show r.operand (some v) .element = some (some v) from rfl) param
  have scalar := whole.either elements
  cases expected with
  | array | object =>
    cases value with
    | none => simpa [condition, Query.Condition.holds] using whole
    | some v =>
      cases v <;>
        simpa [condition, Query.Condition.holds, Query.Condition.isCompound] using whole
  | null | bool | number | text =>
    cases value with
    | none => exact scalar
    | some v => cases v <;> exact scalar

theorem regex_decides (faithful : r.engine.Faithful) {pattern : Pattern}
    (runs : r.engine.Runs pattern) (at_path : r.operand none (.path n) = some value)
    (bound : r.Binds n (condition n (.regex pattern)).2) :
    (r.truth none (condition n (.regex pattern)).1).Decides
      ((Query.Condition.regex pattern).holds value) := by
  have param : r.param? (n + 1) = some (.text pattern.are) := bound.head
  have whole := matching_decides faithful runs at_path param
  have elements := inElements_decides at_path fun v =>
    matching_decides faithful runs (show r.operand (some v) .element = some (some v) from rfl) param
  have either := whole.either elements
  cases value with
  | none => exact either
  | some v =>
    cases v with
    | array items => exact either
    | null | bool | number | text | object =>
      simpa [condition, truth_any, truths_cons, truths_nil, Query.Condition.holds, elementsOf]
        using either

theorem oneOf_decides (faithful : r.engine.Faithful) {items : List Query.Item}
    (runs : ∀ pattern, .pattern pattern ∈ items → r.engine.Runs pattern)
    (at_path : r.operand none (.path n) = some value)
    (bound : r.Binds n (condition n (.oneOf items)).2) :
    (r.truth none (condition n (.oneOf items)).1).Decides
      ((Query.Condition.oneOf items).holds value) := by
  have bound : r.Binds n (items.map itemParam) := bound
  have whole := itemTests_decide faithful runs (orNull_present at_path) bound
  have elements : ∀ v, (r.truth (some v) (.any (itemTests .element (n + 1) items))).Decides
      (items.any fun item => item.admits v) := fun v =>
    itemTests_decide faithful runs (show r.operand (some v) .element = some (some v) from rfl) bound
  cases value with
  | none =>
    simpa [condition, truth_choose, truth_isKind, check, at_path, Query.Condition.holds]
      using whole
  | some v =>
    cases v with
    | array members =>
      have found := Truth.decides_found members _ _ fun v _ => elements v
      simpa [condition, truth_choose, truth_isKind, truth_exists, check, at_path, Kind.is,
        Truth.ofBool, Query.Condition.holds] using found
    | null | bool | number | text | object =>
      simpa [condition, truth_choose, truth_isKind, check, at_path, Kind.is, Truth.ofBool,
        Query.Condition.holds] using whole

theorem condition_decides (faithful : r.engine.Faithful) {c : Query.Condition}
    (runs : ∀ pattern ∈ c.patterns, r.engine.Runs pattern) (live : neverHolds c = false)
    (at_path : r.operand none (.path n) = some value) (bound : r.Binds n (condition n c).2) :
    (r.truth none (condition n c).1).Decides (c.holds value) := by
  cases c with
  | eq expected => exact eq_decides faithful at_path bound
  | regex pattern =>
    have run := runs pattern (by simp [Query.Condition.patterns])
    exact regex_decides faithful run at_path bound
  | gte limit =>
    have h := range_decides faithful .gte live at_path bound.head
    cases order : value.bind fun v => Query.compareToBound v limit <;>
      simpa [condition, Query.Condition.holds, order, Comparison.holds] using h
  | lt limit =>
    have h := range_decides faithful .lt live at_path bound.head
    cases order : value.bind fun v => Query.compareToBound v limit <;>
      simpa [condition, Query.Condition.holds, order, Comparison.holds] using h
  | oneOf items =>
    refine oneOf_decides faithful (fun pattern member => runs pattern ?_) at_path bound
    simpa [Query.Condition.patterns] using ⟨_, member, rfl⟩

/-- What is refused a condition of its own selects nothing. -/
theorem holds_of_never {c : Query.Condition} (never : neverHolds c = true) :
    c.holds value = false := by
  cases c with
  | eq | regex => cases never
  | gte limit | lt limit =>
    have incomparable : (value.bind fun v => Query.compareToBound v limit) = none := by
      cases limit with
      | null | array | object =>
        cases value with
        | none => rfl
        | some v => cases v <;> rfl
      | bool | number | text => cases never
    simp [Query.Condition.holds, incomparable]
  | oneOf items =>
    have none_left : items = [] := by simpa [neverHolds] using never
    subst none_left
    cases value with
    | none => rfl
    | some v => cases v <;> simp [Query.Condition.holds]

end Conditions

/-! Filters: conjunctions of clauses, disjunctions of alternatives -/

theorem truth_joined_all (parts : List Condition) :
    r.truth element (joined .all .always parts) = Truth.all (r.truths element parts) := by
  match parts with
  | [] => rfl
  | [c] => simp [joined, truths_cons, truths_nil, Truth.all, Truth.and_yes]
  | _ :: _ :: _ => rfl

theorem truth_joined_any (parts : List Condition) :
    r.truth element (joined .any .never parts) = Truth.any (r.truths element parts) := by
  match parts with
  | [] => rfl
  | [c] => simp [joined, truths_cons, truths_nil, Truth.any, Truth.or_no]
  | _ :: _ :: _ => rfl

theorem field_decides (faithful : r.engine.Faithful) {path : String} {c : Query.Condition}
    (runs : ∀ pattern ∈ c.patterns, r.engine.Runs pattern)
    (bound : r.Binds n (clauseCondition n (.field path c)).2) :
    (r.truth none (clauseCondition n (.field path c)).1).Decides
      (c.holds (Document.resolve r.doc path)) := by
  cases live : neverHolds c with
  | true =>
    rw [holds_of_never live]
    simp [clauseCondition, live, truth_never, Truth.Decides]
  | false =>
    simp only [clauseCondition, live, Bool.false_eq_true, if_false] at bound ⊢
    have at_path : r.operand none (.path (n + 1)) = some (Document.resolve r.doc path) := by
      simp [operand, bound.head, faithful.extract_eq, Document.resolve]
    exact condition_decides faithful runs live at_path bound.tail

mutual

theorem filterParts_decide (faithful : r.engine.Faithful) (clauses : List Query.Clause) (n : Nat)
    (runs : ∀ pattern ∈ Query.patterns clauses, r.engine.Runs pattern)
    (bound : r.Binds n (filterParts n clauses).2) :
    (Truth.all (r.truths none (filterParts n clauses).1)).Decides
      (Query.selects clauses r.doc) := by
  match clauses with
  | [] => simp [filterParts, truths_nil, Truth.all, Truth.Decides, Query.selects]
  | clause :: rest =>
    simp only [Query.patterns, List.mem_append] at runs
    simp only [filterParts] at bound ⊢
    have first := clause_decides faithful clause n (fun p member => runs p (.inl member))
      bound.left
    have others := filterParts_decide faithful rest (n + (clauseCondition n clause).2.length)
      (fun p member => runs p (.inr member)) bound.right
    exact first.and others

theorem clause_decides (faithful : r.engine.Faithful) (clause : Query.Clause) (n : Nat)
    (runs : ∀ pattern ∈ Query.clausePatterns clause, r.engine.Runs pattern)
    (bound : r.Binds n (clauseCondition n clause).2) :
    (r.truth none (clauseCondition n clause).1).Decides (Query.clauseHolds clause r.doc) := by
  match clause with
  | .field path c => exact field_decides faithful runs bound
  | .either alternatives =>
    simp only [clauseCondition] at bound ⊢
    rw [truth_joined_any]
    exact alternativeParts_decide faithful alternatives n runs bound

theorem alternativeParts_decide (faithful : r.engine.Faithful)
    (alternatives : List (List Query.Clause)) (n : Nat)
    (runs : ∀ pattern ∈ Query.alternativePatterns alternatives, r.engine.Runs pattern)
    (bound : r.Binds n (alternativeParts n alternatives).2) :
    (Truth.any (r.truths none (alternativeParts n alternatives).1)).Decides
      (Query.anySelects alternatives r.doc) := by
  match alternatives with
  | [] => simp [alternativeParts, truths_nil, Truth.any, Truth.Decides, Query.anySelects]
  | f :: rest =>
    simp only [Query.alternativePatterns, List.mem_append] at runs
    simp only [alternativeParts] at bound ⊢
    have first := filterParts_decide faithful f n (fun p member => runs p (.inl member)) bound.left
    rw [← truth_joined_all] at first
    have others := alternativeParts_decide faithful rest (n + (filterParts n f).2.length)
      (fun p member => runs p (.inr member)) bound.right
    exact first.or others

end

theorem ofFilter_decides (faithful : r.engine.Faithful) (f : Query.Filter) (n : Nat)
    (runs : ∀ pattern ∈ Query.patterns f, r.engine.Runs pattern)
    (bound : r.Binds n (ofFilter n f).2) :
    (r.truth none (ofFilter n f).1).Decides (Query.selects f r.doc) := by
  rw [ofFilter, truth_joined_all]
  exact filterParts_decide faithful f n runs bound

end Row

end Sql

end Catalog
