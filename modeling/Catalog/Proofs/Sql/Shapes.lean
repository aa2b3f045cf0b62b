import Catalog.Proofs.Sql.ReadBack

/-!
What the text of a filter depends on, and where it may stand. The text is settled by the shape of
the filter: how its clauses nest, the kinds of their conditions, and the kinds of the operands; no
path, pattern or value has a part in it. And the text is closed: its parentheses match and no word
that joins conditions stands outside them, so a condition that is written before it stays a
condition on every row.
-/
namespace Catalog.Sql

open Json

/-! Shapes -/

/-- What operands of equality, ranges and membership are told apart by. -/
inductive OperandShape where
  | date | number | text | bool | null | array | object
  deriving DecidableEq

inductive ItemShape where
  | value (operand : OperandShape)
  | pattern

inductive ConditionShape where
  | eq (operand : OperandShape)
  | regex
  | gte (bound : OperandShape)
  | lt (bound : OperandShape)
  | oneOf (items : List ItemShape)

inductive ClauseShape where
  | field (condition : ConditionShape)
  | either (alternatives : List (List ClauseShape))

/-- A text that reads as a date is a date and no text. -/
def operandShape (v : Value) : OperandShape :=
  match v.instant?, v with
  | some _, _ => .date
  | none, .number _ => .number
  | none, .text _ => .text
  | none, .bool _ => .bool
  | none, .null => .null
  | none, .array _ => .array
  | none, .object _ => .object

def itemShape : Query.Item → ItemShape
  | .value v => .value (operandShape v)
  | .pattern _ => .pattern

def conditionShape : Query.Condition → ConditionShape
  | .eq v => .eq (operandShape v)
  | .regex _ => .regex
  | .gte bound => .gte (operandShape bound)
  | .lt bound => .lt (operandShape bound)
  | .oneOf items => .oneOf (items.map itemShape)

mutual

def filterShape : List Query.Clause → List ClauseShape
  | [] => []
  | clause :: rest => clauseShape clause :: filterShape rest

def clauseShape : Query.Clause → ClauseShape
  | .field _ condition => .field (conditionShape condition)
  | .either alternatives => .either (alternativeShapes alternatives)

def alternativeShapes : List (List Query.Clause) → List (List ClauseShape)
  | [] => []
  | f :: rest => filterShape f :: alternativeShapes rest

end

/-! Equal shapes, equal conditions -/

section SameShape

variable {v w : Value}

theorem date_of_shape (same : operandShape v = operandShape w) :
    v.instant?.isSome = w.instant?.isSome := by
  have told : ∀ u : Value, operandShape u = .date ↔ u.instant?.isSome = true := by
    intro u
    cases date : u.instant? with
    | some t => simp [operandShape, date]
    | none => cases u <;> simp [operandShape, date]
  rw [Bool.eq_iff_iff, ← told, ← told, same]

theorem equality_of_shape (same : operandShape v = operandShape w) (j : Operand) (p : Placeholder) :
    equality v j p = equality w j p := by
  have dates := date_of_shape same
  cases first : v.instant? <;> cases second : w.instant? <;>
    simp [first, second] at dates <;> simp [equality, first, second]

theorem range_of_shape (same : operandShape v = operandShape w) (j : Operand) (c : Comparison)
    (p : Placeholder) : (range j c v p).1 = (range j c w p).1 := by
  have dates := date_of_shape same
  cases first : v.instant? <;> cases second : w.instant? <;> simp [first, second] at dates
  · cases v <;> cases w <;> simp [operandShape, first, second] at same <;>
      simp [range, first, second]
  · simp [range, first, second]

theorem bound_of_shape (same : operandShape v = operandShape w) :
    neverHolds (.gte v) = neverHolds (.gte w) := by
  have dates := date_of_shape same
  cases first : v.instant? <;> cases second : w.instant? <;> simp [first, second] at dates
  · cases v <;> cases w <;> simp [operandShape, first, second] at same <;> rfl
  · cases v <;> cases w <;> first | rfl | cases first | cases second

theorem itemTests_of_shape {items others : List Query.Item}
    (same : items.map itemShape = others.map itemShape) (j : Operand) (p : Placeholder) :
    itemTests j p items = itemTests j p others := by
  induction items generalizing others p with
  | nil =>
    cases others with
    | nil => rfl
    | cons => cases same
  | cons item items ih =>
    cases others with
    | nil => cases same
    | cons other others =>
      obtain ⟨here, rest⟩ := List.cons.inj same
      have test : itemTest j item p = itemTest j other p := by
        cases item <;> cases other
        · exact equality_of_shape (ItemShape.value.inj here) j p
        · cases here
        · cases here
        · rfl
      rw [itemTests, itemTests, test, ih rest]

variable {c d : Query.Condition}

theorem neverHolds_of_shape (same : conditionShape c = conditionShape d) :
    neverHolds c = neverHolds d := by
  cases c <;> cases d <;> simp only [conditionShape, reduceCtorEq] at same
  · rfl
  · rfl
  · exact bound_of_shape (ConditionShape.gte.inj same)
  · exact bound_of_shape (ConditionShape.lt.inj same)
  · rename_i items others
    have count : items.length = others.length := by
      simpa using congrArg List.length (ConditionShape.oneOf.inj same)
    cases items <;> cases others <;> first | rfl | cases count

/-- Arrays and objects are compared as a whole only, all else with the elements of arrays too. -/
theorem condition_eq (v : Value) (n : Placeholder) : (condition n (.eq v)).1 =
    match operandShape v with
    | .array | .object => equality v (.orNull (.path n)) (n + 1)
    | _ => .any [equality v (.orNull (.path n)) (n + 1),
        inElements (.path n) (equality v .element (n + 1))] := by
  cases v with
  | text s => cases date : (Value.text s).instant? <;> simp [condition, operandShape, date]
  | null | bool | number | array | object => rfl

theorem condition_of_shape (same : conditionShape c = conditionShape d) (n : Placeholder) :
    (condition n c).1 = (condition n d).1 ∧
    (condition n c).2.length = (condition n d).2.length := by
  cases c <;> cases d <;> simp only [conditionShape, reduceCtorEq] at same
  · have operands := ConditionShape.eq.inj same
    exact ⟨by simp only [condition_eq, operands, equality_of_shape operands], rfl⟩
  · exact ⟨rfl, rfl⟩
  · exact ⟨range_of_shape (ConditionShape.gte.inj same) _ _ _, rfl⟩
  · exact ⟨range_of_shape (ConditionShape.lt.inj same) _ _ _, rfl⟩
  · rename_i items others
    have shapes := ConditionShape.oneOf.inj same
    have count : items.length = others.length := by simpa using congrArg List.length shapes
    simp only [condition, itemTests_of_shape shapes, List.length_map, count, and_self]

mutual

theorem filterParts_of_shape (n : Nat) {f g : List Query.Clause}
    (same : filterShape f = filterShape g) : (filterParts n f).1 = (filterParts n g).1 ∧
      (filterParts n f).2.length = (filterParts n g).2.length := by
  match f, g with
  | [], [] => exact ⟨rfl, rfl⟩
  | [], _ :: _ => cases same
  | _ :: _, [] => cases same
  | clause :: f, other :: g =>
    obtain ⟨here, rest⟩ := List.cons.inj same
    obtain ⟨part, count⟩ := clause_of_shape n here
    obtain ⟨parts, more⟩ :=
      filterParts_of_shape (n + (clauseCondition n other).2.length) rest
    simp only [filterParts, List.length_append, part, count, parts, more, and_self]

theorem clause_of_shape (n : Nat) {clause other : Query.Clause}
    (same : clauseShape clause = clauseShape other) :
    (clauseCondition n clause).1 = (clauseCondition n other).1 ∧
      (clauseCondition n clause).2.length = (clauseCondition n other).2.length := by
  match clause, other with
  | .field _ c, .field _ d =>
    have conditions := ClauseShape.field.inj same
    obtain ⟨test, count⟩ := condition_of_shape conditions (n + 1)
    simp only [clauseCondition, neverHolds_of_shape conditions]
    split
    · exact ⟨rfl, rfl⟩
    · exact ⟨test, congrArg Nat.succ count⟩
  | .field _ _, .either _ => cases same
  | .either _, .field _ _ => cases same
  | .either alternatives, .either others =>
    obtain ⟨parts, count⟩ := alternativeParts_of_shape n (ClauseShape.either.inj same)
    simp only [clauseCondition, parts, count, and_self]

theorem alternativeParts_of_shape (n : Nat) {alternatives others : List (List Query.Clause)}
    (same : alternativeShapes alternatives = alternativeShapes others) :
    (alternativeParts n alternatives).1 = (alternativeParts n others).1 ∧
      (alternativeParts n alternatives).2.length = (alternativeParts n others).2.length := by
  match alternatives, others with
  | [], [] => exact ⟨rfl, rfl⟩
  | [], _ :: _ => cases same
  | _ :: _, [] => cases same
  | f :: alternatives, g :: others =>
    obtain ⟨here, rest⟩ := List.cons.inj same
    obtain ⟨part, count⟩ := filterParts_of_shape n here
    obtain ⟨parts, more⟩ := alternativeParts_of_shape (n + (filterParts n g).2.length) rest
    simp only [alternativeParts, List.length_append, part, count, parts, more, and_self]

end

theorem ofFilter_of_shape (n : Nat) {f g : Query.Filter} (same : filterShape f = filterShape g) :
    (ofFilter n f).1 = (ofFilter n g).1 := by
  simp only [ofFilter, (filterParts_of_shape n same).1]

end SameShape

/-! Parentheses -/

/-- What of a text stands outside its parentheses, from a place inside so many of them; none if
they do not match. -/
def outside? : Nat → List Char → Option (List Char)
  | 0, [] => some []
  | _ + 1, [] => none
  | 0, c :: rest =>
    if c = '(' then outside? 1 rest
    else if c = ')' then none
    else (outside? 0 rest).map (c :: ·)
  | depth + 1, c :: rest =>
    if c = '(' then outside? (depth + 2) rest
    else if c = ')' then outside? depth rest
    else outside? (depth + 1) rest

/-- The text leads from `k` parentheses deep to `l`, counted from anywhere, and shows nothing. -/
def Moves (text : String) (k l : Nat) : Prop :=
  ∀ depth rest, outside? (depth + k) (text.toList ++ rest) = outside? (depth + l) rest

/-- Inside parentheses the text is passed over. -/
def Nested (text : String) : Prop := Moves text 1 1

section Nesting

variable {a b front back : String} {k l m : Nat}

theorem Moves.append (first : Moves a k l) (second : Moves b l m) : Moves (a ++ b) k m := by
  intro depth rest
  rw [String.toList_append, List.append_assoc, first, second]

theorem Moves.deeper (moves : Moves a k l) : Moves a (k + 1) (l + 1) := by
  intro depth rest
  have shifted := moves (depth + 1) rest
  rwa [Nat.add_assoc, Nat.add_comm 1 k, Nat.add_assoc, Nat.add_comm 1 l] at shifted

theorem Nested.inside (nested : Nested a) : Moves a (k + 1) (k + 1) :=
  fun depth rest => nested (depth + k) rest

/-- A nested text in parentheses, which open and close within other words. -/
theorem Nested.between (nested : Nested a) (opens : Moves front 1 2) (closes : Moves back 2 1) :
    Nested (front ++ a ++ back) :=
  (opens.append nested.inside).append closes

theorem nested_chars {cs : List Char} (plain : ∀ c ∈ cs, c ≠ '(' ∧ c ≠ ')') (depth : Nat)
    (rest : List Char) : outside? (depth + 1) (cs ++ rest) = outside? (depth + 1) rest := by
  induction cs with
  | nil => rfl
  | cons c cs ih =>
    obtain ⟨here, later⟩ := List.forall_mem_cons.mp plain
    rw [List.cons_append, outside?, if_neg here.1, if_neg here.2, ih later]

theorem nested_placeholder (p : Placeholder) : Nested (placeholder p) := by
  refine nested_chars fun c member => ?_
  rw [placeholder_chars] at member
  rcases List.mem_cons.mp member with rfl | digit
  · decide
  · have seen := Text.isDigit_of_mem_toDigits digit
    constructor <;> rintro rfl <;> exact absurd seen (by decide)

end Nesting

namespace Operand

theorem nested (j : Operand) : Nested j.render := by
  induction j with
  | path p => exact (nested_placeholder p).between (fun _ _ => rfl) fun _ _ => rfl
  | element => exact fun _ _ => rfl
  | orNull j ih => exact ih.between (fun _ _ => rfl) fun _ _ => rfl
  | arrayOrEmpty j ih =>
    have guarded : Nested ("CASE WHEN jsonb_typeof(" ++ j.render ++ ") = 'array' THEN ") :=
      ih.between (fun _ _ => rfl) fun _ _ => rfl
    exact (guarded.append ih).append fun _ _ => rfl

theorem nested_asText (j : Operand) : Nested j.asText := j.nested.append fun _ _ => rfl

end Operand

namespace Condition

theorem nested_compared {left cast : String} (c : Comparison) (p : Placeholder)
    (nested : Nested left) (plain : Nested cast) : Nested (compared left c p cast) := by
  have comparison : Nested c.render := by cases c <;> exact fun _ _ => rfl
  have separated : Nested " " := fun _ _ => rfl
  exact (((nested.append separated).append comparison).append separated).append
    (nested_placeholder p) |>.append plain

/-- The comparison of an operand that is shown as text, in parentheses. -/
theorem nested_viewed {front back cast : String} (j : Operand) (c : Comparison) (p : Placeholder)
    (opens : Moves front 1 2) (closes : Moves back 2 1) (plain : Nested cast) :
    Nested (compared (front ++ j.asText ++ back) c p cast) :=
  nested_compared c p (j.nested_asText.between opens closes) plain

theorem grouped_moves {text : String} (nested : Nested text) : Moves ("(" ++ text ++ ")") 0 0 := by
  have opens : Moves "(" 0 1 := fun depth _ => by cases depth <;> rfl
  exact (opens.append nested).append fun _ _ => rfl

theorem chosen_moves {test yes no : Condition} (nested_test : Nested test.render)
    (nested_yes : Nested yes.render) (nested_no : Nested no.render) :
    Moves (choose test yes no).render 0 0 := by
  have opens : Moves "(CASE WHEN " 0 1 := fun depth _ => by cases depth <;> rfl
  have then_word : Nested " THEN " := fun _ _ => rfl
  have else_word : Nested " ELSE " := fun _ _ => rfl
  exact (((((opens.append nested_test).append then_word).append nested_yes).append
    else_word).append nested_no).append fun _ _ => rfl

mutual

theorem nested (c : Condition) : Nested c.render := by
  match c with
  | .always => exact fun _ _ => rfl
  | .never => exact fun _ _ => rfl
  | .isKind j k =>
    have kind : Nested k.render := by cases k <;> exact fun _ _ => rfl
    have typed : Nested j.typeName := j.nested.between (fun _ _ => rfl) fun _ _ => rfl
    exact (typed.append fun _ _ => rfl).append kind
  | .equals j p => exact (grouped_moves (nested_compared .eq p j.nested fun _ _ => rfl)).deeper
  | .date j c p => exact nested_viewed j c p (fun _ _ => rfl) (fun _ _ => rfl) fun _ _ => rfl
  | .float j c p => exact nested_viewed j c p (fun _ _ => rfl) (fun _ _ => rfl) fun _ _ => rfl
  | .text j c p => exact nested_viewed j c p (fun _ _ => rfl) (fun _ _ => rfl) fun _ _ => rfl
  | .bool j c p => exact nested_viewed j c p (fun _ _ => rfl) (fun _ _ => rfl) fun _ _ => rfl
  | .regex j p =>
    have matched : Nested ("(" ++ j.asText ++ ") ~ ") :=
      j.nested_asText.between (fun _ _ => rfl) fun _ _ => rfl
    exact matched.append (nested_placeholder p)
  | .all parts => exact (grouped_moves (nested_joined (fun _ _ => rfl) parts)).deeper
  | .any parts => exact (grouped_moves (nested_joined (fun _ _ => rfl) parts)).deeper
  | .choose test yes no => exact (chosen_moves (nested test) (nested yes) (nested no)).deeper
  | .exists source test =>
    have opens : Moves "EXISTS (SELECT 1 FROM jsonb_array_elements(" 1 3 := fun _ _ => rfl
    have where_word : Moves ") AS el(v) WHERE " 3 2 := fun _ _ => rfl
    exact (((opens.append source.nested.inside).append where_word).append
      (nested test).inside).append fun _ _ => rfl

theorem nested_joined {separator : String} (plain : Nested separator) (parts : List Condition) :
    Nested (renderJoined separator parts) := by
  match parts with
  | [] => exact fun _ _ => rfl
  | [c] => exact nested c
  | c :: d :: rest => exact ((nested c).append plain).append (nested_joined plain (d :: rest))

end

end Condition

/-! Conditions of filters -/

namespace Condition

/-- The conditions whose text is one of the two constants or one group. -/
def IsClosed : Condition → Prop
  | .always | .never | .all _ | .any _ | .equals .. | .choose .. => True
  | _ => False

/-- What the text of such a condition shows. -/
def shown : Condition → List Char
  | .always => ['T', 'R', 'U', 'E']
  | .never => ['F', 'A', 'L', 'S', 'E']
  | _ => []

theorem mem_shown {c : Condition} {x : Char} (member : x ∈ c.shown) :
    x ∈ ['T', 'R', 'U', 'E', 'F', 'A', 'L', 'S'] := by
  cases c with
  | always | never => simp only [shown, List.mem_cons, List.not_mem_nil] at member ⊢; tauto
  | _ => cases member

theorem outside?_shown {c : Condition} (closed : c.IsClosed) :
    outside? 0 c.render.toList = some c.shown := by
  have group : Moves c.render 0 0 → outside? 0 c.render.toList = some [] := fun moves => by
    have whole := moves 0 []
    rwa [List.append_nil] at whole
  cases c with
  | always => rfl
  | never => rfl
  | equals j p => exact group (grouped_moves (nested_compared .eq p j.nested fun _ _ => rfl))
  | all parts => exact group (grouped_moves (nested_joined (fun _ _ => rfl) parts))
  | any parts => exact group (grouped_moves (nested_joined (fun _ _ => rfl) parts))
  | choose test yes no => exact group (chosen_moves (nested test) (nested yes) (nested no))
  | isKind | date | float | text | bool | regex | «exists» => cases closed

end Condition

section Closed

open Condition

theorem equality_closed (v : Value) (j : Operand) (p : Placeholder) :
    (equality v j p).IsClosed := by
  unfold equality
  split <;> trivial

theorem range_closed (j : Operand) (c : Comparison) (bound : Value) (p : Placeholder) :
    (range j c bound p).1.IsClosed := by
  unfold range
  split <;> trivial

theorem condition_closed (n : Placeholder) (c : Query.Condition) : (condition n c).1.IsClosed := by
  cases c with
  | eq v =>
    rw [condition_eq]
    split
    · exact equality_closed ..
    · exact equality_closed ..
    · trivial
  | regex => trivial
  | gte bound => exact range_closed ..
  | lt bound => exact range_closed ..
  | oneOf => trivial

theorem joined_closed {join : List Condition → Condition} {none : Condition}
    {parts : List Condition} (joins : ∀ parts, (join parts).IsClosed) (empty : none.IsClosed)
    (each : ∀ c ∈ parts, c.IsClosed) : (joined join none parts).IsClosed := by
  match parts with
  | [] => exact empty
  | [c] => exact each c List.mem_cons_self
  | c :: d :: rest => exact joins _

mutual

theorem filterParts_closed (n : Nat) (f : List Query.Clause) :
    ∀ c ∈ (filterParts n f).1, c.IsClosed := by
  match f with
  | [] => exact fun _ none => nomatch none
  | clause :: rest =>
    exact List.forall_mem_cons.mpr ⟨clause_closed n clause, filterParts_closed _ rest⟩

theorem clause_closed (n : Nat) (clause : Query.Clause) :
    (clauseCondition n clause).1.IsClosed := by
  match clause with
  | .field path c =>
    rw [clauseCondition]
    split
    · trivial
    · exact condition_closed (n + 1) c
  | .either alternatives =>
    exact joined_closed (fun _ => trivial) trivial (alternativeParts_closed n alternatives)

theorem alternativeParts_closed (n : Nat) (alternatives : List (List Query.Clause)) :
    ∀ c ∈ (alternativeParts n alternatives).1, c.IsClosed := by
  match alternatives with
  | [] => exact fun _ none => nomatch none
  | f :: rest =>
    have first : (joined .all .always (filterParts n f).1).IsClosed :=
      joined_closed (fun _ => trivial) trivial (filterParts_closed n f)
    exact List.forall_mem_cons.mpr ⟨first, alternativeParts_closed _ rest⟩

end

theorem ofFilter_closed (n : Nat) (f : Query.Filter) : (ofFilter n f).1.IsClosed :=
  joined_closed (fun _ => trivial) trivial (filterParts_closed n f)

end Closed

/-! Conditions side by side -/

def depthAfter (depth : Nat) (c : Char) : Nat :=
  if c = '(' then depth + 1 else if c = ')' then depth - 1 else depth

/-- The parts of a text between the places outside parentheses where a word stands. The first
number counts the characters of the word that are still to be passed over. -/
def partsAt (word : List Char) : Nat → Nat → List Char → List (List Char)
  | _, _, [] => [[]]
  | skip + 1, depth, _ :: rest => partsAt word skip depth rest
  | 0, depth, c :: rest =>
    if depth = 0 ∧ word <+: c :: rest then [] :: partsAt word (word.length - 1) 0 rest
    else (partsAt word 0 (depthAfter depth c) rest).modifyHead (c :: ·)

/-- Is a row selected where a text stands as the condition on rows, if conditions without a word
between them hold as `holds` says? A conjunction binds tighter than a disjunction. -/
def selected (holds : List Char → Bool) (text : List Char) : Bool :=
  (partsAt " OR ".toList 0 0 text).any fun alternative =>
    (partsAt " AND ".toList 0 0 alternative).all holds

section Parts

variable {word cs out : List Char}

theorem prefix_outside (plain : ∀ c ∈ word, c ≠ '(' ∧ c ≠ ')') (before : word <+: cs)
    (seen : outside? 0 cs = some out) : word <+: out := by
  induction word generalizing cs out with
  | nil => exact List.nil_prefix
  | cons c word ih =>
    obtain ⟨here, later⟩ := List.forall_mem_cons.mp plain
    obtain ⟨rest, rfl⟩ := before
    rw [List.cons_append, outside?, if_neg here.1, if_neg here.2] at seen
    obtain ⟨out', seen', rfl⟩ := Option.map_eq_some_iff.mp seen
    exact List.cons_prefix_cons.mpr ⟨rfl, ih later (List.prefix_append word rest) seen'⟩

/-- Where the word does not stand outside parentheses, the text is one part. -/
theorem partsAt_whole {depth : Nat} (plain : ∀ c ∈ word, c ≠ '(' ∧ c ≠ ')')
    (seen : outside? depth cs = some out) (absent : ¬ word <:+: out) :
    partsAt word 0 depth cs = [cs] := by
  induction cs generalizing depth out with
  | nil => rfl
  | cons c rest ih =>
    -- A word that stood here would be seen outside the parentheses.
    have elsewhere : ¬ (depth = 0 ∧ word <+: c :: rest) := by
      rintro ⟨rfl, before⟩
      exact absent (prefix_outside plain before seen).isInfix
    have later : partsAt word 0 (depthAfter depth c) rest = [rest] := by
      unfold depthAfter
      cases depth <;> rw [outside?] at seen <;> split <;> rename_i opens
      case zero.isTrue => exact ih (by rwa [if_pos opens] at seen) absent
      case succ.isTrue => exact ih (by rwa [if_pos opens] at seen) absent
      all_goals
        rw [if_neg opens] at seen
        split <;> rename_i closes
      case zero.isFalse.isTrue => cases (if_pos closes).symm.trans seen
      case zero.isFalse.isFalse =>
        rw [if_neg closes] at seen
        obtain ⟨out', seen', rfl⟩ := Option.map_eq_some_iff.mp seen
        exact ih seen' fun inside => absent (inside.trans (List.suffix_cons c out').isInfix)
      case succ.isFalse.isTrue => exact ih (by rwa [if_pos closes] at seen) absent
      case succ.isFalse.isFalse => exact ih (by rwa [if_neg closes] at seen) absent
    rw [partsAt, if_neg elsewhere, later]
    rfl

end Parts

theorem outside?_plain {front back out : List Char} (plain : ∀ c ∈ front, c ≠ '(' ∧ c ≠ ')')
    (seen : outside? 0 back = some out) : outside? 0 (front ++ back) = some (front ++ out) := by
  induction front with
  | nil => exact seen
  | cons c front ih =>
    obtain ⟨here, later⟩ := List.forall_mem_cons.mp plain
    rw [List.cons_append, outside?, if_neg here.1, if_neg here.2, ih later]
    rfl

/-- Behind the test of the collection, a closed text selects rows of the collection only. -/
theorem selected_within (holds : List Char → Bool) {c : Condition} (closed : c.IsClosed) :
    selected holds ("collection = $1 AND " ++ c.render).toList =
      (holds "collection = $1".toList && holds c.render.toList) := by
  have seen := Condition.outside?_shown closed
  have whole : partsAt " OR ".toList 0 0 ("collection = $1 AND ".toList ++ c.render.toList) =
      ["collection = $1 AND ".toList ++ c.render.toList] := by
    refine partsAt_whole (by simp) (outside?_plain (by simp) seen) fun inside => ?_
    have letter : 'O' ∈ "collection = $1 AND ".toList ++ c.shown := inside.subset (by decide)
    rcases List.mem_append.mp letter with before | after
    · exact absurd before (by decide)
    · exact absurd (Condition.mem_shown after) (by decide)
  have rest : partsAt " AND ".toList 0 0 c.render.toList = [c.render.toList] := by
    refine partsAt_whole (by simp) seen fun inside => ?_
    exact absurd (Condition.mem_shown (inside.subset (show 'N' ∈ _ by decide))) (by decide)
  have parted : partsAt " AND ".toList 0 0 ("collection = $1 AND ".toList ++ c.render.toList) =
      "collection = $1".toList :: partsAt " AND ".toList 0 0 c.render.toList := rfl
  rw [selected, String.toList_append, whole]
  simp only [List.any_cons, List.any_nil, Bool.or_false, parted, rest, List.all_cons, List.all_nil,
    Bool.and_true]

/-- The text of a filter is that of every filter of the same shape. Its parentheses match, neither
word that joins conditions stands outside them, and behind the test of the collection it selects
rows of the collection only. -/
theorem text_of_shape (n : Nat) (f : Query.Filter) :
    (∀ g, filterShape g = filterShape f → (ofFilter n g).1.render = (ofFilter n f).1.render) ∧
    (∃ out, outside? 0 (ofFilter n f).1.render.toList = some out ∧
      ¬ "AND".toList <:+: out ∧ ¬ "OR".toList <:+: out) ∧
    ∀ holds, selected holds ("collection = $1 AND " ++ (ofFilter n f).1.render).toList =
      (holds "collection = $1".toList && holds (ofFilter n f).1.render.toList) := by
  have closed := ofFilter_closed n f
  refine ⟨fun g same => by rw [ofFilter_of_shape n same], ?_,
    fun holds => selected_within holds closed⟩
  refine ⟨_, Condition.outside?_shown closed, fun inside => ?_, fun inside => ?_⟩
  · exact absurd (Condition.mem_shown (inside.subset (show 'N' ∈ _ by decide))) (by decide)
  · exact absurd (Condition.mem_shown (inside.subset (show 'O' ∈ _ by decide))) (by decide)

/-- A filter that tries to end the condition on rows. -/
def hostileFilter : Query.Filter :=
  [.field "title' OR '1'='1" (.eq (.text "') OR (TRUE")),
    .either [[.field "dates.close" (.lt (.text "2026-11-01"))], [.field "$1" (.gte (.bool true))]]]

/-- A filter of the same shape. -/
def harmlessFilter : Query.Filter :=
  [.field "title" (.eq (.text "open")),
    .either [[.field "dates.end" (.lt (.text "2030-01-01"))], [.field "free" (.gte (.bool false))]]]

theorem hostile_text_harmless : filterShape hostileFilter = filterShape harmlessFilter ∧
    (ofFilter 1 hostileFilter).1.render = (ofFilter 1 harmlessFilter).1.render := by
  have texts : operandShape (.text "') OR (TRUE") = .text ∧ operandShape (.text "open") = .text ∧
      operandShape (.text "2026-11-01") = .date ∧ operandShape (.text "2030-01-01") = .date ∧
      ∀ b, operandShape (.bool b) = .bool := by
    decide +kernel
  have same : filterShape hostileFilter = filterShape harmlessFilter := by
    simp [filterShape, hostileFilter, harmlessFilter, clauseShape, conditionShape,
      alternativeShapes, texts]
  exact ⟨same, (text_of_shape 1 harmlessFilter).1 hostileFilter same⟩

end Catalog.Sql
