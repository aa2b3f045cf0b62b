import Catalog.Proofs.Sql.Reading

/-!
A condition read back from its own text. Every phrase is read off the front of whatever follows
it; what comes back is the condition with lists of one part replaced by the part, and that has the
same outcome on every row.
-/
namespace Catalog.Sql

open Text (StartsOutside isDigit)

theorem dropPrefix?_own (front rest : List Char) :
    (front ++ rest).dropPrefix? front = some rest :=
  List.dropPrefix?_append_of_beq rest (beq_self_eq_true front)

section Words

variable {α : Type} {word : String} {a : α} {others : List (String × α)}

theorem word?_own (rest : List Char) :
    word? ((word, a) :: others) (word.toList ++ rest) = some (a, rest) := by
  simp only [word?, dropPrefix?_own]

theorem word?_other {cs : List Char} (other : cs.dropPrefix? word.toList = none) :
    word? ((word, a) :: others) cs = word? others cs := by
  simp only [word?, other]

end Words

theorem placeholder_chars (p : Placeholder) : (placeholder p).toList = '$' :: Nat.toDigits 10 p := by
  simp [placeholder, String.toList_append, Nat.toString_eq_repr]

theorem placeholder?_own (p : Placeholder) (cast : String) (rest : List Char)
    (outside : StartsOutside isDigit (cast.toList ++ rest)) :
    placeholder? cast ((placeholder p).toList ++ (cast.toList ++ rest)) = some (p, rest) := by
  have digits : ∀ c ∈ Nat.toDigits 10 p, isDigit c = true := fun _ member =>
    Text.isDigit_of_mem_toDigits member
  have spelled : (placeholder p).toList = "$".toList ++ Nat.toDigits 10 p := placeholder_chars p
  simp only [placeholder?, spelled, List.append_assoc, dropPrefix?_own, Option.bind_eq_bind,
    Option.bind_some, Text.takeWhile_append_outside digits outside,
    Text.dropWhile_append_outside digits outside, Text.decimal?_toDigits]

/-! Operands -/

namespace Operand

theorem render_path (p : Placeholder) :
    (Operand.path p).render = "(doc #> " ++ placeholder p ++ "::text[])" := rfl

theorem render_orNull (j : Operand) :
    (Operand.orNull j).render = "COALESCE(" ++ j.render ++ ", 'null'::jsonb)" := rfl

theorem render_arrayOrEmpty (j : Operand) :
    (Operand.arrayOrEmpty j).render =
      "CASE WHEN jsonb_typeof(" ++ j.render ++ ") = 'array' THEN " ++ j.render ++
        " ELSE '[]'::jsonb END" := rfl

/-- A value at a path, or an element. -/
def IsValue : Operand → Prop
  | .path _ | .element => True
  | _ => False

/-- What tests are about. -/
def IsTested : Operand → Prop
  | .orNull j => j.IsValue
  | j => j.IsValue

/-- What is looked through. -/
def IsSource : Operand → Prop
  | .arrayOrEmpty j => j.IsValue
  | j => j.IsValue

variable {j : Operand}

theorem value?_own (value : j.IsValue) (rest : List Char) :
    value? (j.render.toList ++ rest) = some (j, rest) := by
  cases j with
  | path p =>
    have cast : StartsOutside isDigit ("::text[])".toList ++ rest) := by
      simp [StartsOutside, isDigit]
    have h := placeholder?_own p "::text[])" rest cast
    have opened : ∀ cs, word? valueWords ("(doc #> ".toList ++ cs) = some (.path, cs) :=
      fun cs => by simp [word?, valueWords, List.dropPrefix?]
    simp only [value?, render_path, String.toList_append, List.append_assoc, opened, h,
      Option.bind_eq_bind, Option.bind_some]
  | element =>
    have spelled : Operand.element.render = "el.v" := rfl
    simp [value?, spelled, word?, valueWords, List.dropPrefix?]
  | orNull | arrayOrEmpty => cases value

theorem operand?_own (tested : j.IsTested) (rest : List Char) :
    operand? (j.render.toList ++ rest) = some (j, rest) := by
  cases j with
  | path p =>
    have h := value?_own (j := .path p) trivial rest
    have other : ((Operand.path p).render.toList ++ rest).dropPrefix? "COALESCE(".toList = none := by
      simp [render_path, List.dropPrefix?]
    simp only [operand?, other, h]
  | element =>
    have h := value?_own (j := .element) trivial rest
    have other : (Operand.element.render.toList ++ rest).dropPrefix? "COALESCE(".toList = none := rfl
    simp only [operand?, other, h]
  | orNull j =>
    simp only [operand?, render_orNull, String.toList_append, List.append_assoc, dropPrefix?_own,
      value?_own tested, Option.bind_eq_bind, Option.bind_some]
  | arrayOrEmpty => cases tested

theorem source?_own (source : j.IsSource) (rest : List Char) :
    source? (j.render.toList ++ rest) = some (j, rest) := by
  cases j with
  | path p =>
    have h := value?_own (j := .path p) trivial rest
    have other : ((Operand.path p).render.toList ++ rest).dropPrefix?
        "CASE WHEN jsonb_typeof(".toList = none := by
      simp [render_path, List.dropPrefix?]
    simp only [source?, other, h]
  | element =>
    have h := value?_own (j := .element) trivial rest
    have other : (Operand.element.render.toList ++ rest).dropPrefix?
        "CASE WHEN jsonb_typeof(".toList = none := rfl
    simp only [source?, other, h]
  | arrayOrEmpty j =>
    simp only [source?, render_arrayOrEmpty, String.toList_append, List.append_assoc, dropPrefix?_own,
      value?_own source, Option.bind_eq_bind, Option.bind_some, if_true]
  | orNull => cases source

end Operand

/-! Words that stand between operands and placeholders -/

theorem comparison?_own (c : Comparison) (rest : List Char) :
    word? comparisons (c.render.toList ++ (" ".toList ++ rest)) = some (c, " ".toList ++ rest) := by
  cases c <;> simp [Comparison.render, word?, comparisons, List.dropPrefix?]

theorem kind?_own (k : Kind) (rest : List Char) :
    word? kinds (k.render.toList ++ rest) = some (k, rest) := by
  cases k <;> simp [Kind.render, word?, kinds, List.dropPrefix?]

theorem compared?_own (test : Comparison → Placeholder → Condition) (c : Comparison)
    (p : Placeholder) (cast : String) (rest : List Char)
    (outside : StartsOutside isDigit (cast.toList ++ rest)) :
    compared? test cast
        (" ".toList ++ (c.render.toList ++ (" ".toList ++
          ((placeholder p).toList ++ (cast.toList ++ rest))))) =
      some (test c p, rest) := by
  simp only [compared?, dropPrefix?_own, comparison?_own, placeholder?_own p cast rest outside,
    Option.bind_eq_bind, Option.bind_some]

namespace Condition

/-- The conditions that the reader has words for: about values at paths or elements, with a part
in every list. -/
inductive Spelled : Condition → Prop
  | always : Spelled .always
  | never : Spelled .never
  | isKind {j : Operand} (k : Kind) (tested : j.IsTested) : Spelled (.isKind j k)
  | equals {j : Operand} (p : Placeholder) (tested : j.IsTested) : Spelled (.equals j p)
  | date {j : Operand} (c : Comparison) (p : Placeholder) (tested : j.IsTested) :
    Spelled (.date j c p)
  | float {j : Operand} (c : Comparison) (p : Placeholder) (tested : j.IsTested) :
    Spelled (.float j c p)
  | text {j : Operand} (c : Comparison) (p : Placeholder) (tested : j.IsTested) :
    Spelled (.text j c p)
  | bool {j : Operand} (c : Comparison) (p : Placeholder) (tested : j.IsTested) :
    Spelled (.bool j c p)
  | regex {j : Operand} (p : Placeholder) (tested : j.IsTested) : Spelled (.regex j p)
  | all {parts : List Condition} (present : parts ≠ []) (each : ∀ c ∈ parts, Spelled c) :
    Spelled (.all parts)
  | any {parts : List Condition} (present : parts ≠ []) (each : ∀ c ∈ parts, Spelled c) :
    Spelled (.any parts)
  | choose {test yes no : Condition} (first : Spelled test) (second : Spelled yes)
    (third : Spelled no) : Spelled (.choose test yes no)
  | look {source : Operand} {test : Condition} (looked : source.IsSource)
    (inside : Spelled test) : Spelled (.exists source test)

mutual

/-- A condition with lists of one part replaced by the part. -/
def flat : Condition → Condition
  | .all parts => joined .all .always (flats parts)
  | .any parts => joined .any .never (flats parts)
  | .choose test yes no => .choose test.flat yes.flat no.flat
  | .exists source test => .exists source test.flat
  | c => c

def flats : List Condition → List Condition
  | [] => []
  | c :: rest => c.flat :: flats rest

end

theorem render_always : always.render = "TRUE" := rfl

theorem render_never : never.render = "FALSE" := rfl

theorem render_isKind (j : Operand) (k : Kind) :
    (isKind j k).render = "jsonb_typeof(" ++ j.render ++ ")" ++ " = " ++ k.render := rfl

theorem render_equals (j : Operand) (p : Placeholder) :
    (equals j p).render = "(" ++ compared j.render .eq p "::jsonb" ++ ")" := rfl

theorem render_date (j : Operand) (c : Comparison) (p : Placeholder) :
    (date j c p).render = compared ("opcat_date(" ++ j.asText ++ ")") c p "::timestamptz" := rfl

theorem render_float (j : Operand) (c : Comparison) (p : Placeholder) :
    (float j c p).render = compared ("(" ++ j.asText ++ ")::float8") c p "::float8" := rfl

theorem render_text (j : Operand) (c : Comparison) (p : Placeholder) :
    (text j c p).render = compared ("(" ++ j.asText ++ ") COLLATE \"C\"") c p "::text" := rfl

theorem render_bool (j : Operand) (c : Comparison) (p : Placeholder) :
    (bool j c p).render = compared ("(" ++ j.asText ++ ")::boolean") c p "::boolean" := rfl

theorem render_regex (j : Operand) (p : Placeholder) :
    (regex j p).render = "(" ++ j.asText ++ ") ~ " ++ placeholder p := rfl

theorem render_all (parts : List Condition) :
    (all parts).render = "(" ++ renderJoined " AND " parts ++ ")" := rfl

theorem render_any (parts : List Condition) :
    (any parts).render = "(" ++ renderJoined " OR " parts ++ ")" := rfl

theorem render_choose (test yes no : Condition) :
    (choose test yes no).render =
      "(CASE WHEN " ++ test.render ++ " THEN " ++ yes.render ++ " ELSE " ++ no.render ++
        " END)" := rfl

theorem render_exists (source : Operand) (test : Condition) :
    (Condition.exists source test).render =
      "EXISTS (SELECT 1 FROM jsonb_array_elements(" ++ source.render ++ ") AS el(v) WHERE " ++
        test.render ++ ")" := rfl

theorem renderJoined_single (separator : String) (c : Condition) :
    renderJoined separator [c] = c.render := rfl

theorem renderJoined_cons (separator : String) (c next : Condition) (rest : List Condition) :
    renderJoined separator (c :: next :: rest) =
      c.render ++ separator ++ renderJoined separator (next :: rest) := rfl

/-! What a phrase begins with tells which phrase it is. -/

/-- A text that an opening parenthesis stands before, and nothing more specific. -/
def Grouped (cs : List Char) : Prop :=
  cs.head? ≠ some 'd' ∧ cs.dropPrefix? "CASE WHEN ".toList = none

theorem group_opening {cs : List Char} (grouped : Grouped cs) :
    word? openings ("(".toList ++ cs) = some (.group, cs) := by
  have choice : ("(".toList ++ cs).dropPrefix? "(CASE WHEN ".toList = none := grouped.2
  have earlier : word? openings ("(".toList ++ cs) =
      word? [("(CASE WHEN ", .choice), ("(", .group)] ("(".toList ++ cs) := rfl
  rw [earlier, word?_other choice, word?_own]

theorem no_operand {cs : List Char} (other : cs.head? ≠ some 'd') :
    operand? ("(".toList ++ cs) = none := by
  have path : ("(".toList ++ cs).dropPrefix? "(doc #> ".toList = none := by
    cases cs with
    | nil => rfl
    | cons c cs =>
      have differ : c ≠ 'd' := by simpa using other
      simp [List.dropPrefix?, differ]
  have value : word? valueWords ("(".toList ++ cs) = none := by
    rw [valueWords, word?_other path]
    rfl
  have unfolded : operand? ("(".toList ++ cs) = value? ("(".toList ++ cs) := rfl
  rw [unfolded, value?, value]
  rfl

theorem operand_grouped {j : Operand} (tested : j.IsTested) (rest : List Char) :
    Grouped (j.render.toList ++ rest) := by
  cases j with
  | path p => simp [Grouped, Operand.render_path, List.dropPrefix?]
  | element =>
    have spelled : Operand.element.render = "el.v" := rfl
    simp [Grouped, spelled, List.dropPrefix?]
  | orNull j => simp [Grouped, Operand.render_orNull, List.dropPrefix?]
  | arrayOrEmpty => cases tested

theorem begins (c : Condition) :
    ∃ first ∈ ['T', 'F', 'j', 'o', 'E', '('], c.render.toList.head? = some first := by
  cases c with
  | always => simp [render_always]
  | never => simp [render_never]
  | isKind => simp [render_isKind]
  | date => simp [render_date, compared]
  | «exists» => simp [render_exists]
  | equals => simp [render_equals]
  | float => simp [render_float, compared]
  | text => simp [render_text, compared]
  | bool => simp [render_bool, compared]
  | regex => simp [render_regex]
  | all => simp [render_all]
  | any => simp [render_any]
  | choose => simp [render_choose]

theorem grouped (c : Condition) (rest : List Char) : Grouped (c.render.toList ++ rest) := by
  obtain ⟨first, member, head⟩ := begins c
  cases text : c.render.toList with
  | nil => simp [text] at head
  | cons x xs =>
    have same : x = first := by simpa [text] using head
    subst same
    have plain : x ≠ 'd' ∧ x ≠ 'C' := by
      constructor <;> rintro rfl <;> simp at member
    simp [Grouped, List.dropPrefix?, plain]

theorem grouped_joined {separator : String} {parts : List Condition} (present : parts ≠ [])
    (rest : List Char) : Grouped ((renderJoined separator parts).toList ++ rest) := by
  match parts with
  | [c] => exact grouped c rest
  | c :: next :: parts =>
    have first := grouped c
    simp only [renderJoined_cons, String.toList_append, List.append_assoc]
    exact first _

theorem operand?_condition {c : Condition} (spelled : c.Spelled) (rest : List Char) :
    operand? (c.render.toList ++ rest) = none := by
  cases spelled with
  | always | never => rfl
  | isKind => simp only [render_isKind, String.toList_append, List.append_assoc]; rfl
  | date => simp only [render_date, compared, String.toList_append, List.append_assoc]; rfl
  | look => simp only [render_exists, String.toList_append, List.append_assoc]; rfl
  | equals p tested =>
    simp only [render_equals, compared, String.toList_append, List.append_assoc]
    exact no_operand (operand_grouped tested _).1
  | float c p tested =>
    simp only [render_float, compared, Operand.asText, String.toList_append, List.append_assoc]
    exact no_operand (operand_grouped tested _).1
  | text c p tested =>
    simp only [render_text, compared, Operand.asText, String.toList_append, List.append_assoc]
    exact no_operand (operand_grouped tested _).1
  | bool c p tested =>
    simp only [render_bool, compared, Operand.asText, String.toList_append, List.append_assoc]
    exact no_operand (operand_grouped tested _).1
  | regex p tested =>
    simp only [render_regex, Operand.asText, String.toList_append, List.append_assoc]
    exact no_operand (operand_grouped tested _).1
  | all present each =>
    simp only [render_all, String.toList_append, List.append_assoc]
    exact no_operand (grouped_joined present _).1
  | any present each =>
    simp only [render_any, String.toList_append, List.append_assoc]
    exact no_operand (grouped_joined present _).1
  | choose =>
    have clause : "(CASE WHEN ".toList = "(".toList ++ "CASE WHEN ".toList := rfl
    simp only [render_choose, String.toList_append, List.append_assoc, clause]
    exact no_operand (by simp)

theorem operand?_joined {separator : String} {parts : List Condition} (present : parts ≠ [])
    (each : ∀ c ∈ parts, c.Spelled) (rest : List Char) :
    operand? ((renderJoined separator parts).toList ++ rest) = none := by
  match parts with
  | [c] => exact operand?_condition (each c List.mem_cons_self) rest
  | c :: next :: parts =>
    have first := operand?_condition (each c List.mem_cons_self)
    simp only [renderJoined_cons, String.toList_append, List.append_assoc]
    exact first _

/-! Phrases joined by a separator -/

theorem separated?_own {read? : Reader Condition} {separator : String}
    (follows : List Char → Prop) (between : ∀ rest, follows (separator.toList ++ rest))
    {parts : List Condition} (present : parts ≠ [])
    (each : ∀ c ∈ parts, ∀ rest, follows rest →
      read? (c.render.toList ++ rest) = some (c.flat, rest))
    (n : Nat) (enough : parts.length ≤ n) (rest : List Char) (after : follows rest)
    (stops : rest.dropPrefix? separator.toList = none) :
    separated? separator read? n ((renderJoined separator parts).toList ++ rest) =
      some (flats parts, rest) := by
  induction n generalizing parts with
  | zero => simp_all
  | succ n ih =>
    match parts with
    | [c] =>
      have first := each c List.mem_cons_self rest after
      simp only [separated?, renderJoined_single, first, Option.bind_eq_bind, Option.bind_some,
        stops, flats]
    | c :: next :: parts =>
      have first := each c List.mem_cons_self
        (separator.toList ++ ((renderJoined separator (next :: parts)).toList ++ rest)) (between _)
      have others := ih (show next :: parts ≠ [] by simp)
        (fun c member => each c (List.mem_cons_of_mem _ member)) (by simpa using enough)
      simp only [separated?, renderJoined_cons, String.toList_append, List.append_assoc, first,
        Option.bind_eq_bind, Option.bind_some, dropPrefix?_own, others, flats]

/-- Nothing that follows here is taken for more of a phrase. -/
structure Closes (rest : List Char) : Prop where
  outside : StartsOutside isDigit rest
  conjunct : rest.dropPrefix? " AND ".toList = none
  disjunct : rest.dropPrefix? " OR ".toList = none

/-- The reader takes the text of a condition for the condition, wherever it stands. -/
def ReadBy (read? : Reader Condition) (c : Condition) : Prop :=
  ∀ rest, StartsOutside isDigit rest → read? (c.render.toList ++ rest) = some (c.flat, rest)

section Joined

variable {read? : Reader Condition} {parts : List Condition} {n : Nat}

theorem conjunction?_own (present : parts ≠ []) (each : ∀ c ∈ parts, ReadBy read? c)
    (enough : parts.length ≤ n) (rest : List Char) (outside : StartsOutside isDigit rest)
    (stops : rest.dropPrefix? " AND ".toList = none) :
    conjunction? read? n ((renderJoined " AND " parts).toList ++ rest) =
      some (joined .all .always (flats parts), rest) := by
  have between : ∀ rest, StartsOutside isDigit (" AND ".toList ++ rest) := fun rest => by
    simp [StartsOutside, isDigit]
  have parted := separated?_own (StartsOutside isDigit) between present each n enough rest outside
    stops
  simp only [conjunction?, parted, Option.bind_eq_bind, Option.bind_some]

theorem disjunction?_conjunction {c : Condition} {cs rest : List Char}
    (whole : conjunction? read? n cs = some (c, rest)) (room : 0 < n)
    (stops : rest.dropPrefix? " OR ".toList = none) :
    disjunction? read? n cs = some (c, rest) := by
  obtain ⟨m, rfl⟩ := Nat.exists_eq_add_of_lt room
  simp only [disjunction?, separated?, whole, stops, Option.bind_eq_bind, Option.bind_some, joined]

theorem disjunction?_single {c : Condition} (read : ReadBy read? c) (room : 0 < n)
    (rest : List Char) (closes : Closes rest) :
    disjunction? read? n (c.render.toList ++ rest) = some (c.flat, rest) := by
  have whole := conjunction?_own (show [c] ≠ [] by simp) (by simpa using read) room rest
    closes.outside closes.conjunct
  exact disjunction?_conjunction whole room closes.disjunct

theorem disjunction?_all (present : parts ≠ []) (each : ∀ c ∈ parts, ReadBy read? c)
    (enough : parts.length ≤ n) (rest : List Char) (closes : Closes rest) :
    disjunction? read? n ((renderJoined " AND " parts).toList ++ rest) =
      some ((Condition.all parts).flat, rest) := by
  have room : 0 < n := Nat.lt_of_lt_of_le (List.length_pos_of_ne_nil present) enough
  exact disjunction?_conjunction
    (conjunction?_own present each enough rest closes.outside closes.conjunct) room
    closes.disjunct

theorem disjunction?_any (present : parts ≠ []) (each : ∀ c ∈ parts, ReadBy read? c)
    (enough : parts.length ≤ n) (rest : List Char) (closes : Closes rest) :
    disjunction? read? n ((renderJoined " OR " parts).toList ++ rest) =
      some ((Condition.any parts).flat, rest) := by
  have room : 0 < n := Nat.lt_of_lt_of_le (List.length_pos_of_ne_nil present) enough
  let follows := fun rest : List Char =>
    StartsOutside isDigit rest ∧ rest.dropPrefix? " AND ".toList = none
  have between : ∀ rest, follows (" OR ".toList ++ rest) := fun rest => by
    simp [follows, StartsOutside, isDigit, List.dropPrefix?]
  have single : ∀ c ∈ parts, ∀ rest, follows rest →
      conjunction? read? n (c.render.toList ++ rest) = some (c.flat, rest) := by
    intro c member rest after
    exact conjunction?_own (show [c] ≠ [] by simp) (by simpa using each c member) room rest
      after.1 after.2
  have parted := separated?_own follows between present single n enough rest
    ⟨closes.outside, closes.conjunct⟩ closes.disjunct
  simp only [disjunction?, parted, Option.bind_eq_bind, Option.bind_some, flat]

end Joined

/-! Lengths bound how far the reader has to go. -/

theorem length_part_le (separator : String) {c : Condition} {parts : List Condition}
    (member : c ∈ parts) : c.render.length ≤ (renderJoined separator parts).length := by
  induction parts with
  | nil => cases member
  | cons first parts ih =>
    cases parts with
    | nil =>
      have same : c = first := by simpa using member
      simp [same, renderJoined_single]
    | cons next parts =>
      rw [renderJoined_cons, String.length_append, String.length_append]
      rcases List.mem_cons.mp member with same | later
      · rw [same]
        omega
      · have bound := ih later
        omega

theorem length_pos (c : Condition) : 0 < c.render.length := by
  obtain ⟨first, _, head⟩ := begins c
  rw [← String.length_toList]
  exact List.length_pos_of_ne_nil fun empty => by simp [empty] at head

theorem length_parts_le (separator : String) (parts : List Condition) :
    parts.length ≤ (renderJoined separator parts).length := by
  induction parts with
  | nil => simp
  | cons first parts ih =>
    have start := length_pos first
    cases parts with
    | nil => exact start
    | cons next parts =>
      rw [renderJoined_cons, String.length_append, String.length_append, List.length_cons]
      omega

theorem closes_parenthesis (rest : List Char) : Closes (")".toList ++ rest) :=
  ⟨by simp [StartsOutside, isDigit], by simp [List.dropPrefix?], by simp [List.dropPrefix?]⟩

theorem closes_then (rest : List Char) : Closes (" THEN ".toList ++ rest) :=
  ⟨by simp [StartsOutside, isDigit], by simp [List.dropPrefix?], by simp [List.dropPrefix?]⟩

theorem closes_else (rest : List Char) : Closes (" ELSE ".toList ++ rest) :=
  ⟨by simp [StartsOutside, isDigit], by simp [List.dropPrefix?], by simp [List.dropPrefix?]⟩

theorem closes_end (rest : List Char) : Closes (" END)".toList ++ rest) :=
  ⟨by simp [StartsOutside, isDigit], by simp [List.dropPrefix?], by simp [List.dropPrefix?]⟩

theorem closes_nil : Closes [] := ⟨Text.startsOutside_nil _, rfl, rfl⟩

/-! Parentheses -/

theorem primary?_tested {j : Operand} (tested : j.IsTested) (n : Nat) (cs : List Char) :
    primary? (n + 1) ("(".toList ++ (j.render.toList ++ cs)) = tested? j cs := by
  simp only [primary?, group_opening (operand_grouped tested cs), Operand.operand?_own tested,
    Option.bind_eq_bind, Option.bind_some]

theorem primary?_parenthesised {inner rest : List Char} {c : Condition} {n : Nat}
    (grouped : Grouped (inner ++ (")".toList ++ rest)))
    (other : operand? (inner ++ (")".toList ++ rest)) = none)
    (read : disjunction? (primary? n) n (inner ++ (")".toList ++ rest)) =
      some (c, ")".toList ++ rest)) :
    primary? (n + 1) ("(".toList ++ (inner ++ (")".toList ++ rest))) = some (c, rest) := by
  simp only [primary?, group_opening grouped, other, read, dropPrefix?_own, Option.bind_eq_bind,
    Option.bind_some]

/-! One phrase each -/

section Phrases

variable {j : Operand}

theorem primary?_always (n : Nat) : ReadBy (primary? (n + 1)) always := by
  intro rest _
  have opened : word? openings ("TRUE".toList ++ rest) = some (.always, rest) := word?_own rest
  simp only [primary?, render_always, opened, Option.bind_eq_bind, Option.bind_some, flat]

theorem primary?_never (n : Nat) : ReadBy (primary? (n + 1)) never := by
  intro rest _
  have opened : word? openings ("FALSE".toList ++ rest) = some (.never, rest) := by
    simp [openings, word?, List.dropPrefix?]
  simp only [primary?, render_never, opened, Option.bind_eq_bind, Option.bind_some, flat]

theorem primary?_isKind (tested : j.IsTested) (k : Kind) (n : Nat) :
    ReadBy (primary? (n + 1)) (isKind j k) := by
  intro rest _
  have opened : ∀ cs, word? openings ("jsonb_typeof(".toList ++ cs) = some (.kind, cs) :=
    fun cs => by simp [openings, word?, List.dropPrefix?]
  simp only [primary?, render_isKind, String.toList_append, List.append_assoc, opened,
    Operand.operand?_own tested, dropPrefix?_own, kind?_own, Option.bind_eq_bind,
    Option.bind_some, flat]

theorem primary?_date (tested : j.IsTested) (c : Comparison) (p : Placeholder) (n : Nat) :
    ReadBy (primary? (n + 1)) (date j c p) := by
  intro rest _
  have opened : ∀ cs, word? openings ("opcat_date(".toList ++ cs) = some (.date, cs) :=
    fun cs => by simp [openings, word?, List.dropPrefix?]
  have cast : StartsOutside isDigit ("::timestamptz".toList ++ rest) := by
    simp [StartsOutside, isDigit]
  simp only [primary?, render_date, compared, Operand.asText, wholeText, String.toList_append,
    List.append_assoc, opened, Operand.operand?_own tested, dropPrefix?_own,
    compared?_own _ c p _ rest cast, Option.bind_eq_bind, Option.bind_some, flat]

theorem primary?_equals (tested : j.IsTested) (p : Placeholder) (n : Nat) :
    ReadBy (primary? (n + 1)) (equals j p) := by
  intro rest _
  have cast : StartsOutside isDigit ("::jsonb".toList ++ (")".toList ++ rest)) := by
    simp [StartsOutside, isDigit]
  have word : ∀ cs, word? testWords (" ".toList ++ ("=".toList ++ (" ".toList ++ cs))) =
      some (.equals, cs) := fun cs => word?_own cs
  simp only [render_equals, compared, Comparison.render, String.toList_append,
    List.append_assoc, primary?_tested tested, tested?, word, placeholder?_own p _ _ cast,
    dropPrefix?_own, Option.bind_eq_bind, Option.bind_some, flat]

/-- A comparison of a value as text, behind a mark that tells what the text is read as. -/
theorem primary?_compared (tested : j.IsTested) {mark cast : String}
    {test : Comparison → Placeholder → Condition}
    (marked : ∀ cs, tested? j (wholeText.toList ++ (mark.toList ++ cs)) = compared? test cast cs)
    (n : Nat) (c : Comparison) (p : Placeholder) (rest : List Char)
    (outside : StartsOutside isDigit (cast.toList ++ rest)) :
    primary? (n + 1) ((compared ("(" ++ j.asText ++ mark) c p cast).toList ++ rest) =
      some (test c p, rest) := by
  simp only [compared, Operand.asText, String.toList_append, List.append_assoc,
    primary?_tested tested, marked, compared?_own test c p cast rest outside]

theorem primary?_float (tested : j.IsTested) (c : Comparison) (p : Placeholder) (n : Nat) :
    ReadBy (primary? (n + 1)) (float j c p) := by
  intro rest _
  have marked : ∀ cs, tested? j (wholeText.toList ++ (")::float8".toList ++ cs)) =
      compared? (.float j) "::float8" cs := fun cs => by
    simp [tested?, wholeText, testWords, word?, List.dropPrefix?]
  exact primary?_compared tested marked n c p rest (by simp [StartsOutside, isDigit])

theorem primary?_text (tested : j.IsTested) (c : Comparison) (p : Placeholder) (n : Nat) :
    ReadBy (primary? (n + 1)) (text j c p) := by
  intro rest _
  have marked : ∀ cs, tested? j (wholeText.toList ++ (") COLLATE \"C\"".toList ++ cs)) =
      compared? (.text j) "::text" cs := fun cs => by
    simp [tested?, wholeText, testWords, word?, List.dropPrefix?]
  exact primary?_compared tested marked n c p rest (by simp [StartsOutside, isDigit])

theorem primary?_bool (tested : j.IsTested) (c : Comparison) (p : Placeholder) (n : Nat) :
    ReadBy (primary? (n + 1)) (bool j c p) := by
  intro rest _
  have marked : ∀ cs, tested? j (wholeText.toList ++ (")::boolean".toList ++ cs)) =
      compared? (.bool j) "::boolean" cs := fun cs => by
    simp [tested?, wholeText, testWords, word?, List.dropPrefix?]
  exact primary?_compared tested marked n c p rest (by simp [StartsOutside, isDigit])

/-- The one phrase that ends in a bare placeholder: a digit behind it would be read as part of
its number. -/
theorem primary?_regex (tested : j.IsTested) (p : Placeholder) (n : Nat) :
    ReadBy (primary? (n + 1)) (regex j p) := by
  intro rest outside
  have word : ∀ cs, word? testWords (wholeText.toList ++ (") ~ ".toList ++ cs)) =
      some (.regex, cs) := fun cs => by
    simp [wholeText, testWords, word?, List.dropPrefix?]
  have uncast := placeholder?_own p "" rest outside
  have back : placeholder? "" ((placeholder p).toList ++ rest) = some (p, rest) := uncast
  simp only [render_regex, Operand.asText, String.toList_append, List.append_assoc,
    primary?_tested tested, tested?, word, back, Option.bind_eq_bind, Option.bind_some, flat]

end Phrases

/-! Phrases around other conditions -/

/-- The reader, let go one step further than `n`, reads the condition if `n` steps suffice for
its text. -/
def ReadWithin (c : Condition) : Prop :=
  ∀ n, c.render.length ≤ n + 1 → ReadBy (primary? (n + 1)) c

theorem ReadWithin.readBy {c : Condition} (read : ReadWithin c) (n : Nat)
    (enough : c.render.length ≤ n) : ReadBy (primary? n) c := by
  have long := length_pos c
  obtain ⟨m, rfl⟩ := Nat.exists_eq_add_one_of_ne_zero (show n ≠ 0 by omega)
  exact read m enough

/-- What is joined in parentheses is shorter than the whole, and there are fewer parts of it. -/
theorem readBy_parts {separator : String} {parts : List Condition} {n : Nat}
    (read : ∀ c ∈ parts, ReadWithin c)
    (enough : ("(" ++ renderJoined separator parts ++ ")").length ≤ n + 1) :
    (∀ c ∈ parts, ReadBy (primary? n) c) ∧ parts.length ≤ n := by
  have opening : "(".length = 1 := rfl
  have closing : ")".length = 1 := rfl
  rw [String.length_append, String.length_append, opening, closing] at enough
  constructor
  · intro c member
    have bound := length_part_le separator member
    exact (read c member).readBy n (by omega)
  · have count := length_parts_le separator parts
    omega

theorem readWithin_all {parts : List Condition} (present : parts ≠ [])
    (each : ∀ c ∈ parts, c.Spelled) (read : ∀ c ∈ parts, ReadWithin c) :
    ReadWithin (all parts) := by
  intro n enough rest _
  obtain ⟨parts_read, count⟩ := readBy_parts read enough
  have back := disjunction?_all present parts_read count _ (closes_parenthesis rest)
  simp only [render_all, String.toList_append, List.append_assoc]
  exact primary?_parenthesised (grouped_joined present _) (operand?_joined present each _) back

theorem readWithin_any {parts : List Condition} (present : parts ≠ [])
    (each : ∀ c ∈ parts, c.Spelled) (read : ∀ c ∈ parts, ReadWithin c) :
    ReadWithin (any parts) := by
  intro n enough rest _
  obtain ⟨parts_read, count⟩ := readBy_parts read enough
  have back := disjunction?_any present parts_read count _ (closes_parenthesis rest)
  simp only [render_any, String.toList_append, List.append_assoc]
  exact primary?_parenthesised (grouped_joined present _) (operand?_joined present each _) back

theorem readWithin_choose {test yes no : Condition} (readTest : ReadWithin test)
    (readYes : ReadWithin yes) (readNo : ReadWithin no) :
    ReadWithin (choose test yes no) := by
  intro n enough rest _
  have opened : ∀ cs, word? openings ("(CASE WHEN ".toList ++ cs) = some (.choice, cs) :=
    fun cs => by simp [openings, word?, List.dropPrefix?]
  have opening : "(CASE WHEN ".length = 11 := rfl
  simp only [render_choose, String.length_append, opening] at enough
  have room : 0 < n := by omega
  have testBack := disjunction?_single (readTest.readBy n (by omega)) room _
    (closes_then (yes.render.toList ++ (" ELSE ".toList ++ (no.render.toList ++
      (" END)".toList ++ rest)))))
  have yesBack := disjunction?_single (readYes.readBy n (by omega)) room _
    (closes_else (no.render.toList ++ (" END)".toList ++ rest)))
  have noBack := disjunction?_single (readNo.readBy n (by omega)) room _ (closes_end rest)
  simp only [primary?, render_choose, String.toList_append, List.append_assoc, opened,
    testBack, yesBack, noBack, dropPrefix?_own, Option.bind_eq_bind, Option.bind_some, flat]

theorem readWithin_exists {source : Operand} {test : Condition} (looked : source.IsSource)
    (readTest : ReadWithin test) : ReadWithin («exists» source test) := by
  intro n enough rest _
  have opened : ∀ cs, word? openings
      ("EXISTS (SELECT 1 FROM jsonb_array_elements(".toList ++ cs) = some (.look, cs) :=
    fun cs => by simp [openings, word?, List.dropPrefix?]
  have opening : ") AS el(v) WHERE ".length = 17 := rfl
  simp only [render_exists, String.length_append, opening] at enough
  have room : 0 < n := by omega
  have testBack := disjunction?_single (readTest.readBy n (by omega)) room _
    (closes_parenthesis rest)
  simp only [primary?, render_exists, String.toList_append, List.append_assoc, opened,
    Operand.source?_own looked, testBack, dropPrefix?_own, Option.bind_eq_bind,
    Option.bind_some, flat]

theorem readWithin_of_spelled {c : Condition} (spelled : c.Spelled) : ReadWithin c := by
  induction spelled with
  | always => exact fun n _ => primary?_always n
  | never => exact fun n _ => primary?_never n
  | isKind k tested => exact fun n _ => primary?_isKind tested k n
  | equals p tested => exact fun n _ => primary?_equals tested p n
  | date c p tested => exact fun n _ => primary?_date tested c p n
  | float c p tested => exact fun n _ => primary?_float tested c p n
  | text c p tested => exact fun n _ => primary?_text tested c p n
  | bool c p tested => exact fun n _ => primary?_bool tested c p n
  | regex p tested => exact fun n _ => primary?_regex tested p n
  | all present each read => exact readWithin_all present each read
  | any present each read => exact readWithin_any present each read
  | choose _ _ _ readTest readYes readNo => exact readWithin_choose readTest readYes readNo
  | look looked _ readTest => exact readWithin_exists looked readTest

theorem read?_own {c : Condition} (spelled : c.Spelled) : read? c.render = some c.flat := by
  have long := length_pos c
  have whole := (readWithin_of_spelled spelled).readBy c.render.length (Nat.le_refl _)
  have back := disjunction?_single whole long [] closes_nil
  rw [List.append_nil] at back
  simp only [read?, String.length_toList, back]

end Condition

end Catalog.Sql
