import Catalog.Proofs.Sql.ReadBack

/-!
Placeholders against parameters. The calls of one translator share their parameters; each call
numbers its own behind those that are bound already. Main statement: the placeholders in the text
of a call are its own parameters, all of them, and a text first mentions them in their order.
-/
namespace Catalog.Sql

open Text (StartsOutside isDigit)

/-- The numbers behind the dollar signs among the characters, as they come. -/
def mentioned : List Char → List Placeholder
  | [] => []
  | c :: rest =>
    if c = '$' then (Text.decimal? (rest.takeWhile isDigit)).toList ++ mentioned rest
    else mentioned rest

/-- The numbers behind the dollar signs of a text, as they come. -/
def mentions (text : String) : List Placeholder := mentioned text.toList

/-- A part of a statement that a translator is asked for. -/
inductive Call where
  | filter (f : Query.Filter)
  | order (r : Query.Ranking)
  | window (s : Query.Selection)

/-- The text of a call and the parameters it binds, after `n` parameters. -/
def Call.emit (n : Nat) : Call → String × List Param
  | .filter f => ((ofFilter n f).1.render, (ofFilter n f).2)
  | .order r => (renderOrder (ofRanking n r).1, (ofRanking n r).2)
  | .window s => ofSelection n s

/-- What a call gave: the parameters bound before it, its text, and the parameters it bound. -/
structure Emission where
  before : List Param
  text : String
  params : List Param

/-- The calls of one translator, one after the other. -/
def translate (bound : List Param) : List Call → List Emission
  | [] => []
  | call :: calls =>
    ⟨bound, (call.emit bound.length).1, (call.emit bound.length).2⟩ ::
      translate (bound ++ (call.emit bound.length).2) calls

def boundBy (bound : List Param) : List Call → List Param
  | [] => bound
  | call :: calls => boundBy (bound ++ (call.emit bound.length).2) calls

/-! Texts in parts -/

section Texts

variable {a b c : String}

theorem mentioned_append {front back : List Char} (outside : StartsOutside isDigit back) :
    mentioned (front ++ back) = mentioned front ++ mentioned back := by
  induction front with
  | nil => rfl
  | cons c rest ih =>
    have stops : back.takeWhile isDigit = [] :=
      Text.takeWhile_append_outside (List.forall_mem_nil _) outside
    have digits : (rest ++ back).takeWhile isDigit = rest.takeWhile isDigit := by
      rw [List.takeWhile_append, stops, List.append_nil]
      split
      · rename_i all
        exact ((List.takeWhile_prefix isDigit).eq_of_length all).symm
      · rfl
    simp only [List.cons_append, mentioned, digits, ih]
    split
    · rw [List.append_assoc]
    · rfl

theorem mentions_append (outside : StartsOutside isDigit b.toList) :
    mentions (a ++ b) = mentions a ++ mentions b := by
  rw [mentions, String.toList_append]
  exact mentioned_append outside

theorem mentioned_plain {cs : List Char} (plain : '$' ∉ cs) : mentioned cs = [] := by
  induction cs with
  | nil => rfl
  | cons c rest ih =>
    have here : c ≠ '$' := fun same => plain (same ▸ List.mem_cons_self)
    rw [mentioned, if_neg here]
    exact ih fun member => plain (List.mem_cons_of_mem _ member)

theorem mentions_placeholder (p : Placeholder) : mentions (placeholder p) = [p] := by
  have digits : ∀ c ∈ Nat.toDigits 10 p, isDigit c = true := fun _ member =>
    Text.isDigit_of_mem_toDigits member
  have run : (Nat.toDigits 10 p).takeWhile isDigit = Nat.toDigits 10 p := by
    simpa using Text.takeWhile_append_outside digits (Text.startsOutside_nil isDigit)
  have plain : '$' ∉ Nat.toDigits 10 p := fun member => absurd (digits _ member) (by decide)
  rw [mentions, placeholder_chars, mentioned, if_pos rfl, run, Text.decimal?_toDigits,
    mentioned_plain plain]
  rfl

/-- The text begins, and not with a digit. -/
def Worded (text : String) : Prop := ∃ c cs, text.toList = c :: cs ∧ isDigit c = false

theorem Worded.append (worded : Worded a) (b : String) : Worded (a ++ b) := by
  obtain ⟨c, cs, held, other⟩ := worded
  exact ⟨c, cs ++ b.toList, by rw [String.toList_append, held, List.cons_append], other⟩

theorem Worded.outside (worded : Worded a) : StartsOutside isDigit a.toList := by
  obtain ⟨c, cs, held, other⟩ := worded
  rw [held]
  exact Text.startsOutside_cons.mpr other

theorem outside_placeholder (p : Placeholder) : StartsOutside isDigit (placeholder p).toList := by
  simp [StartsOutside, isDigit, placeholder, String.toList_append]

end Texts

/-! Operands and words -/

def Operand.numbers : Operand → List Placeholder
  | .path p => [p]
  | .element => []
  | .orNull j => j.numbers
  | .arrayOrEmpty j => j.numbers ++ j.numbers

namespace Operand

theorem worded (j : Operand) : Worded j.render := by
  cases j with
  | path p => exact .append (.append ⟨_, _, rfl, rfl⟩ _) _
  | element => exact ⟨_, _, rfl, rfl⟩
  | orNull j => exact .append (.append ⟨_, _, rfl, rfl⟩ _) _
  | arrayOrEmpty j => exact .append (.append (.append (.append ⟨_, _, rfl, rfl⟩ _) _) _) _

theorem outside (j : Operand) : StartsOutside isDigit j.render.toList := j.worded.outside

theorem mentions_render (j : Operand) : mentions j.render = j.numbers := by
  induction j with
  | path p =>
    rw [render_path, mentions_append (Text.startsOutside_cons.mpr rfl),
      mentions_append (outside_placeholder p), mentions_placeholder]
    rfl
  | element => rfl
  | orNull j ih =>
    rw [render_orNull, mentions_append (Text.startsOutside_cons.mpr rfl),
      mentions_append j.outside, ih]
    exact List.append_nil _
  | arrayOrEmpty j ih =>
    rw [render_arrayOrEmpty, mentions_append (Text.startsOutside_cons.mpr rfl),
      mentions_append j.outside, mentions_append (Text.startsOutside_cons.mpr rfl),
      mentions_append j.outside, ih]
    simp [mentions, mentioned, numbers]

/-- An operand as text, between words that mention nothing. -/
theorem mentions_viewed {front back : String} (j : Operand) (bare : mentions front = [])
    (outside : StartsOutside isDigit back.toList) (plain : mentions back = []) :
    mentions (front ++ j.asText ++ back) = j.numbers := by
  rw [asText, wholeText, ← String.append_assoc, mentions_append outside,
    mentions_append (Text.startsOutside_cons.mpr rfl), mentions_append j.outside,
    j.mentions_render, bare, plain]
  exact (List.append_nil _).trans (List.append_nil _)

end Operand

theorem Comparison.outside (c : Comparison) : StartsOutside isDigit c.render.toList := by
  cases c <;> simp [StartsOutside, isDigit, Comparison.render]

theorem Comparison.mentions_render (c : Comparison) : mentions c.render = [] := by
  cases c <;> rfl

theorem Kind.outside (k : Kind) : StartsOutside isDigit k.render.toList := by
  cases k <;> simp [StartsOutside, isDigit, Kind.render]

theorem Kind.mentions_render (k : Kind) : mentions k.render = [] := by
  cases k <;> rfl

/-! Conditions -/

namespace Condition

mutual

/-- The placeholders of a condition, as they come in its text. -/
def numbers : Condition → List Placeholder
  | .always | .never => []
  | .isKind j _ => j.numbers
  | .equals j p | .date j _ p | .float j _ p | .text j _ p | .bool j _ p | .regex j p =>
    j.numbers ++ [p]
  | .all parts | .any parts => numbersOf parts
  | .choose test yes no => test.numbers ++ yes.numbers ++ no.numbers
  | .exists source test => source.numbers ++ test.numbers

def numbersOf : List Condition → List Placeholder
  | [] => []
  | c :: rest => c.numbers ++ numbersOf rest

end

theorem worded (c : Condition) : Worded c.render := by
  obtain ⟨first, member, head⟩ := begins c
  obtain ⟨rest, held⟩ := List.head?_eq_some_iff.mp head
  have other : ['T', 'F', 'j', 'o', 'E', '('].all (fun d => !isDigit d) = true := by decide
  exact ⟨first, rest, held, (Bool.not_eq_true' _).mp (List.all_eq_true.mp other first member)⟩

theorem outside (c : Condition) : StartsOutside isDigit c.render.toList := c.worded.outside

theorem outside_joined (separator : String) (parts : List Condition) :
    StartsOutside isDigit (renderJoined separator parts).toList := by
  cases parts with
  | nil => exact Text.startsOutside_nil _
  | cons c rest =>
    cases rest with
    | nil => exact c.outside
    | cons d rest =>
      rw [renderJoined_cons]
      exact ((c.worded.append _).append _).outside

theorem mentions_compared {left cast : String} (c : Comparison) (p : Placeholder)
    (outside : StartsOutside isDigit cast.toList) (bare : mentions cast = []) :
    mentions (compared left c p cast) = mentions left ++ [p] := by
  rw [compared, mentions_append outside, mentions_append (outside_placeholder p),
    mentions_append (Text.startsOutside_cons.mpr rfl), mentions_append c.outside,
    mentions_append (Text.startsOutside_cons.mpr rfl), mentions_placeholder, bare,
    c.mentions_render]
  simp [mentions, mentioned]

mutual

theorem mentions_render (c : Condition) : mentions c.render = c.numbers := by
  match c with
  | .always => rfl
  | .never => rfl
  | .isKind j k =>
    rw [render_isKind, mentions_append k.outside, mentions_append (Text.startsOutside_cons.mpr rfl),
      mentions_append (Text.startsOutside_cons.mpr rfl), mentions_append j.outside,
      j.mentions_render, k.mentions_render]
    simp [mentions, mentioned, numbers]
  | .equals j p =>
    have opened : mentions ("(" ++ j.render) = j.numbers := by
      rw [mentions_append j.outside, j.mentions_render]
      rfl
    have grouped : "(" ++ compared j.render .eq p "::jsonb" ++ ")" =
        compared ("(" ++ j.render) .eq p "::jsonb)" := by
      simp only [compared, String.append_assoc]
      rfl
    rw [render_equals, grouped, mentions_compared .eq p (Text.startsOutside_cons.mpr rfl) rfl,
      opened, numbers]
  | .date j c p =>
    rw [render_date, mentions_compared c p (Text.startsOutside_cons.mpr rfl) rfl,
      j.mentions_viewed rfl (Text.startsOutside_cons.mpr rfl) rfl, numbers]
  | .float j c p =>
    rw [render_float, mentions_compared c p (Text.startsOutside_cons.mpr rfl) rfl,
      j.mentions_viewed rfl (Text.startsOutside_cons.mpr rfl) rfl, numbers]
  | .text j c p =>
    rw [render_text, mentions_compared c p (Text.startsOutside_cons.mpr rfl) rfl,
      j.mentions_viewed rfl (Text.startsOutside_cons.mpr rfl) rfl, numbers]
  | .bool j c p =>
    rw [render_bool, mentions_compared c p (Text.startsOutside_cons.mpr rfl) rfl,
      j.mentions_viewed rfl (Text.startsOutside_cons.mpr rfl) rfl, numbers]
  | .regex j p =>
    rw [render_regex, mentions_append (outside_placeholder p),
      j.mentions_viewed rfl (Text.startsOutside_cons.mpr rfl) rfl, mentions_placeholder, numbers]
  | .all parts =>
    rw [render_all, mentions_append (Text.startsOutside_cons.mpr rfl),
      mentions_append (outside_joined _ parts),
      mentions_joined rfl (Text.startsOutside_cons.mpr rfl) parts]
    exact List.append_nil _
  | .any parts =>
    rw [render_any, mentions_append (Text.startsOutside_cons.mpr rfl),
      mentions_append (outside_joined _ parts),
      mentions_joined rfl (Text.startsOutside_cons.mpr rfl) parts]
    exact List.append_nil _
  | .choose test yes no =>
    rw [render_choose, mentions_append (Text.startsOutside_cons.mpr rfl),
      mentions_append no.outside, mentions_append (Text.startsOutside_cons.mpr rfl),
      mentions_append yes.outside, mentions_append (Text.startsOutside_cons.mpr rfl),
      mentions_append test.outside, mentions_render test, mentions_render yes, mentions_render no]
    simp [mentions, mentioned, numbers]
  | .exists source test =>
    rw [render_exists, mentions_append (Text.startsOutside_cons.mpr rfl),
      mentions_append test.outside, mentions_append (Text.startsOutside_cons.mpr rfl),
      mentions_append source.outside, mentions_render test, source.mentions_render]
    simp [mentions, mentioned, numbers]

theorem mentions_joined {separator : String} (bare : mentions separator = [])
    (outside : StartsOutside isDigit separator.toList) (parts : List Condition) :
    mentions (renderJoined separator parts) = numbersOf parts := by
  match parts with
  | [] => rfl
  | c :: rest =>
    have first := mentions_render c
    have later := mentions_joined bare outside rest
    rw [numbersOf]
    cases rest with
    | nil => rw [renderJoined_single, first, numbersOf, List.append_nil]
    | cons d rest =>
      rw [renderJoined_cons, mentions_append (outside_joined separator (d :: rest)),
        mentions_append outside, first, later, bare, List.append_nil]

end

end Condition

/-! Numbers in the order in which they are first met -/

/-- After the numbers from `m + 1` up to `n` were met, the list has only such numbers and the one
that comes next each time, up to `k`. -/
inductive Counts (m : Nat) : Nat → List Placeholder → Nat → Prop
  | nil {n : Nat} : Counts m n [] n
  | again {n k p : Nat} {ps : List Placeholder} (above : m < p) (met : p ≤ n)
    (rest : Counts m n ps k) : Counts m n (p :: ps) k
  | next {n k : Nat} {ps : List Placeholder} (rest : Counts m (n + 1) ps k) :
    Counts m n ((n + 1) :: ps) k

theorem eraseDups_of_nodup {ps : List Placeholder} (distinct : ps.Nodup) : ps.eraseDups = ps := by
  induction ps with
  | nil => rfl
  | cons p ps ih =>
    obtain ⟨fresh, rest⟩ := List.nodup_cons.mp distinct
    have kept : ps.filter (fun q => !q == p) = ps := by
      refine List.filter_eq_self.mpr fun q member => ?_
      have other : q ≠ p := fun same => fresh (same ▸ member)
      simp [other]
    rw [List.eraseDups_cons, kept, ih rest]

namespace Counts

variable {m n k : Nat} {ps qs : List Placeholder}

theorem append {l : Nat} (first : Counts m n ps k) (second : Counts m k qs l) :
    Counts m n (ps ++ qs) l := by
  induction first with
  | nil => exact second
  | again above met _ ih => exact .again above met (ih second)
  | next _ ih => exact .next (ih second)

theorem of_met (met : ∀ p ∈ ps, m < p ∧ p ≤ n) : Counts m n ps n := by
  induction ps with
  | nil => exact .nil
  | cons p ps ih =>
    obtain ⟨here, rest⟩ := List.forall_mem_cons.mp met
    exact .again here.1 here.2 (ih rest)

/-- What counts on from `n` alone counts on from there after earlier numbers as well. -/
theorem lower {l : Nat} (counts : Counts m n ps k) (le : l ≤ m) : Counts l n ps k := by
  induction counts with
  | nil => exact .nil
  | again above met _ ih => exact .again (Nat.lt_of_le_of_lt le above) met ih
  | next _ ih => exact .next ih

theorem eraseDups_met (counts : Counts m n ps k) (le : m ≤ n) :
    (List.range' (m + 1) (n - m) ++ ps).eraseDups = List.range' (m + 1) (k - m) := by
  induction counts with
  | nil => rw [List.append_nil, eraseDups_of_nodup (List.nodup_range')]
  | @again n k p ps above met _ ih =>
    have known : (List.range' (m + 1) (n - m)).elem p = true := by
      rw [List.elem_iff, List.mem_range'_1]
      omega
    have dropped : (p :: ps).removeAll (List.range' (m + 1) (n - m)) =
        ps.removeAll (List.range' (m + 1) (n - m)) := by
      rw [List.removeAll, List.filter_cons_of_neg (by rw [known]; decide)]
      rfl
    rw [List.eraseDups_append, dropped, ← List.eraseDups_append]
    exact ih le
  | @next n k ps _ ih =>
    have longer : List.range' (m + 1) (n - m) ++ [n + 1] = List.range' (m + 1) (n + 1 - m) := by
      rw [Nat.succ_sub le, List.range'_1_concat]
      congr 2
      omega
    rw [List.append_cons, longer]
    exact ih (Nat.le_succ_of_le le)

/-- The numbers behind `n`, each once and in their order, are what is left without repetitions. -/
theorem eraseDups (counts : Counts n n ps (n + k)) : ps.eraseDups = List.range' (n + 1) k := by
  simpa using counts.eraseDups_met (Nat.le_refl n)

end Counts

/-! Tests of one parameter -/

/-- The numbers of a test: first those of the operand, maybe again, and the parameter last. -/
def Tested (j : Operand) (p : Placeholder) (ps : List Placeholder) : Prop :=
  ∃ again, ps = j.numbers ++ again ++ [p] ∧ again ⊆ j.numbers

section Tests

variable {j : Operand} {m n k p : Nat} {ps : List Placeholder}

theorem Tested.counts (tested : Tested j (k + 1) ps) (opening : Counts m n j.numbers k)
    (met : ∀ q ∈ j.numbers, m < q ∧ q ≤ k) : Counts m n ps (k + 1) := by
  obtain ⟨again, rfl, known⟩ := tested
  exact (opening.append (.of_met fun q member => met q (known member))).append (.next .nil)

theorem Tested.met (tested : Tested j p ps) {P : Placeholder → Prop}
    (operand : ∀ q ∈ j.numbers, P q) (param : P p) : ∀ q ∈ ps, P q := by
  obtain ⟨again, rfl, known⟩ := tested
  simp only [List.forall_mem_append, List.forall_mem_singleton]
  exact ⟨⟨operand, fun q member => operand q (known member)⟩, param⟩

theorem equality_tested (v : Json.Value) (j : Operand) (p : Placeholder) :
    Tested j p (equality v j p).numbers := by
  unfold equality
  split
  · exact ⟨j.numbers, by simp [Condition.numbers, Condition.numbersOf], List.Subset.refl _⟩
  · exact ⟨[], by simp [Condition.numbers], List.nil_subset _⟩

theorem matching_tested (j : Operand) (p : Placeholder) : Tested j p (matching j p).numbers :=
  ⟨j.numbers, by simp [matching, Condition.numbers, Condition.numbersOf], List.Subset.refl _⟩

theorem range_tested {c : Comparison} {bound : Json.Value} (live : neverHolds (.gte bound) = false)
    (j : Operand) (p : Placeholder) : Tested j p (range j c bound p).1.numbers := by
  refine ⟨j.numbers, ?_, List.Subset.refl _⟩
  cases date : bound.instant? with
  | some t => simp [range, date, Condition.numbers, Condition.numbersOf]
  | none =>
    cases bound
    case null | array | object => cases live
    all_goals simp [range, date, Condition.numbers, Condition.numbersOf]

theorem itemTest_tested (j : Operand) (item : Query.Item) (p : Placeholder) :
    Tested j p (itemTest j item p).numbers := by
  cases item with
  | value v => exact equality_tested v j p
  | pattern => exact matching_tested j p

theorem itemTests_counts (met : ∀ q ∈ j.numbers, m < q ∧ q ≤ n) (items : List Query.Item) :
    Counts m n (Condition.numbersOf (itemTests j (n + 1) items)) (n + items.length) := by
  induction items generalizing n with
  | nil => exact .nil
  | cons item items ih =>
    have first := (itemTest_tested j item (n + 1)).counts (.of_met met) met
    have rest := ih (n := n + 1) fun q member =>
      ⟨(met q member).1, Nat.le_succ_of_le (met q member).2⟩
    rw [itemTests, Condition.numbersOf, List.length_cons, Nat.add_comm items.length,
      ← Nat.add_assoc]
    exact first.append rest

theorem itemTests_met (operand : ∀ q ∈ j.numbers, m < q ∧ q ≤ k) (items : List Query.Item)
    (above : m < p) (room : p + items.length ≤ k + 1) :
    ∀ q ∈ Condition.numbersOf (itemTests j p items), m < q ∧ q ≤ k := by
  induction items generalizing p with
  | nil => exact fun _ none => nomatch none
  | cons item items ih =>
    rw [List.length_cons] at room
    have param : m < p ∧ p ≤ k := ⟨above, by omega⟩
    have later := ih (Nat.lt_succ_of_lt above) (show p + 1 + items.length ≤ k + 1 by omega)
    rw [itemTests, Condition.numbersOf]
    exact List.forall_mem_append.mpr
      ⟨(itemTest_tested j item p).met (P := fun q => m < q ∧ q ≤ k) operand param, later⟩

end Tests

/-! Parts of statements -/

section Parts

variable {n : Nat}

theorem path_counts (n : Nat) : Counts n n (Operand.path (n + 1)).numbers (n + 1) := .next .nil

theorem path_met (n : Nat) : ∀ q ∈ (Operand.path (n + 1)).numbers, n < q ∧ q ≤ n + 1 :=
  List.forall_mem_singleton.mpr ⟨Nat.lt_succ_self n, Nat.le_refl _⟩

theorem element_met {P : Placeholder → Prop} : ∀ q ∈ Operand.element.numbers, P q :=
  fun _ none => nomatch none

theorem condition_counts {c : Query.Condition} (live : neverHolds c = false) (n : Nat) :
    Counts n n (condition (n + 1) c).1.numbers (n + 1 + (condition (n + 1) c).2.length) := by
  have path := path_counts n
  have known := path_met n
  have later : ∀ k, ∀ q ∈ (Operand.path (n + 1)).numbers, n < q ∧ q ≤ n + 1 + k :=
    fun k q member => ⟨(known q member).1, Nat.le_add_right_of_le (known q member).2⟩
  have looked : ∀ q ∈ (Operand.arrayOrEmpty (.path (n + 1))).numbers, n < q ∧ q ≤ n + 2 :=
    List.forall_mem_append.mpr ⟨later 1, later 1⟩
  have param : n < n + 2 ∧ n + 2 ≤ n + 2 := ⟨by omega, Nat.le_refl _⟩
  cases c with
  | eq v =>
    have whole := (equality_tested v (.orNull (.path (n + 1))) (n + 2)).counts path known
    have each := (equality_tested v .element (n + 2)).met (P := fun q => n < q ∧ q ≤ n + 2)
      element_met param
    have scalar : Counts n n (Condition.any [equality v (.orNull (.path (n + 1))) (n + 2),
        inElements (.path (n + 1)) (equality v .element (n + 2))]).numbers (n + 2) := by
      simp only [Condition.numbers, Condition.numbersOf, inElements, List.append_nil]
      exact whole.append (.of_met (List.forall_mem_append.mpr ⟨looked, each⟩))
    cases v with
    | array | object => exact whole
    | null | bool | number | text => exact scalar
  | regex pattern =>
    have whole := (matching_tested (.path (n + 1)) (n + 2)).counts path known
    have each := (matching_tested .element (n + 2)).met (P := fun q => n < q ∧ q ≤ n + 2)
      element_met param
    simp only [condition, Condition.numbers, Condition.numbersOf, inElements, List.append_nil]
    exact whole.append (.of_met (List.forall_mem_append.mpr ⟨looked, each⟩))
  | gte bound => exact (range_tested (c := .gte) live (.path (n + 1)) (n + 2)).counts path known
  | lt bound =>
    have live : neverHolds (.gte bound) = false := live
    exact (range_tested (c := .lt) live (.path (n + 1)) (n + 2)).counts path known
  | oneOf items =>
    have each := itemTests_counts (j := .element) (m := n) (n := n + 1) element_met items
    have whole := itemTests_met (j := .orNull (.path (n + 1))) (m := n) (p := n + 2)
      (k := n + 1 + items.length) (later items.length) items (by omega) (by omega)
    simp only [condition, Condition.numbers, List.length_map]
    refine (path.append ?_).append (.of_met whole)
    exact (Counts.of_met known).append each

theorem numbers_joined_all (parts : List Condition) :
    (joined .all .always parts).numbers = Condition.numbersOf parts := by
  cases parts with
  | nil => rfl
  | cons c rest =>
    cases rest with
    | nil => exact (List.append_nil _).symm
    | cons => rfl

theorem numbers_joined_any (parts : List Condition) :
    (joined .any .never parts).numbers = Condition.numbersOf parts := by
  cases parts with
  | nil => rfl
  | cons c rest =>
    cases rest with
    | nil => exact (List.append_nil _).symm
    | cons => rfl

/-- Two parts, the second one behind the parameters of the first. -/
theorem Counts.follow {a b : Nat} {ps qs : List Placeholder} (first : Counts n n ps (n + a))
    (second : Counts (n + a) (n + a) qs (n + a + b)) : Counts n n (ps ++ qs) (n + (a + b)) := by
  rw [← Nat.add_assoc]
  exact first.append (second.lower (Nat.le_add_right n a))

mutual

theorem filterParts_counts (n : Nat) (f : List Query.Clause) :
    Counts n n (Condition.numbersOf (filterParts n f).1) (n + (filterParts n f).2.length) := by
  match f with
  | [] => exact .nil
  | clause :: rest =>
    have first := clause_counts n clause
    have later := filterParts_counts (n + (clauseCondition n clause).2.length) rest
    rw [filterParts, Condition.numbersOf, List.length_append]
    exact first.follow later

theorem clause_counts (n : Nat) (clause : Query.Clause) :
    Counts n n (clauseCondition n clause).1.numbers (n + (clauseCondition n clause).2.length) := by
  match clause with
  | .field path c =>
    cases live : neverHolds c with
    | true =>
      simp only [clauseCondition, live, if_true]
      exact .nil
    | false =>
      simp only [clauseCondition, live, Bool.false_eq_true, if_false, List.length_cons]
      rw [Nat.add_comm (List.length _), ← Nat.add_assoc]
      exact condition_counts live n
  | .either alternatives =>
    simp only [clauseCondition, numbers_joined_any]
    exact alternativeParts_counts n alternatives

theorem alternativeParts_counts (n : Nat) (alternatives : List (List Query.Clause)) :
    Counts n n (Condition.numbersOf (alternativeParts n alternatives).1)
      (n + (alternativeParts n alternatives).2.length) := by
  match alternatives with
  | [] => exact .nil
  | f :: rest =>
    have first := filterParts_counts n f
    have later := alternativeParts_counts (n + (filterParts n f).2.length) rest
    rw [alternativeParts, Condition.numbersOf, numbers_joined_all, List.length_append]
    exact first.follow later

end

theorem ofFilter_counts (n : Nat) (f : Query.Filter) :
    Counts n n (mentions (ofFilter n f).1.render) (n + (ofFilter n f).2.length) := by
  rw [Condition.mentions_render, ofFilter, numbers_joined_all]
  exact filterParts_counts n f

end Parts

/-! Sort orders and windows -/

namespace Operand

theorem typeName_eq (j : Operand) : j.typeName = "jsonb_typeof(" ++ j.render ++ ")" := rfl

theorem outside_typeName (j : Operand) : StartsOutside isDigit j.typeName.toList :=
  Worded.outside (.append (.append ⟨_, _, rfl, rfl⟩ _) _)

theorem mentions_typeName (j : Operand) : mentions j.typeName = j.numbers := by
  rw [typeName_eq, mentions_append (Text.startsOutside_cons.mpr rfl), mentions_append j.outside,
    j.mentions_render]
  exact List.append_nil _

theorem outside_asText (j : Operand) : StartsOutside isDigit j.asText.toList :=
  (j.worded.append wholeText).outside

theorem mentions_asText (j : Operand) : mentions j.asText = j.numbers := by
  rw [asText, mentions_append (Text.startsOutside_cons.mpr rfl), j.mentions_render]
  exact List.append_nil _

end Operand

namespace Column

/-- The placeholders of a sort column, as they come in its text. -/
def numbers : Column → List Placeholder
  | .kind j => j.numbers
  | .date j | .number j | .other j => j.numbers ++ j.numbers
  | .text j => j.numbers ++ j.numbers ++ j.numbers
  | .sequence => []

theorem render_kind (j : Operand) : (Column.kind j).render =
    "CASE " ++ j.typeName ++ " WHEN 'string' THEN 1 WHEN 'number' THEN 2 " ++
      "WHEN 'boolean' THEN 3 WHEN 'array' THEN 4 WHEN 'object' THEN 5 ELSE 0 END" := rfl

theorem render_text (j : Operand) : (Column.text j).render =
    "CASE WHEN " ++ j.typeName ++ " = 'string' AND opcat_date(" ++ j.asText ++
      ") IS NULL THEN (" ++ j.asText ++ ") COLLATE \"C\" END" := rfl

theorem mentions_kind (j : Operand) : mentions (Column.kind j).render = j.numbers := by
  have before : mentions ("CASE " ++ j.typeName) = j.numbers := by
    rw [mentions_append j.outside_typeName, j.mentions_typeName]
    rfl
  rw [render_kind, mentions_append (Text.startsOutside_cons.mpr rfl),
    mentions_append (Text.startsOutside_cons.mpr rfl), before]
  simp [mentions, mentioned]

/-- A column that only has values of some kinds: its guard, and what it shows of a value. -/
theorem mentions_guarded {view : String} {ps : List Placeholder} (j : Operand) (kinds back : String)
    (kinds_outside : StartsOutside isDigit kinds.toList) (kinds_plain : mentions kinds = [])
    (view_outside : StartsOutside isDigit view.toList) (view_numbers : mentions view = ps)
    (back_outside : StartsOutside isDigit back.toList) (back_plain : mentions back = []) :
    mentions ("CASE WHEN " ++ j.typeName ++ kinds ++ view ++ back) = j.numbers ++ ps := by
  rw [mentions_append back_outside, mentions_append view_outside, mentions_append kinds_outside,
    mentions_append j.outside_typeName, j.mentions_typeName, kinds_plain, view_numbers, back_plain,
    List.append_nil, List.append_nil]
  rfl

theorem mentions_render (c : Column) : mentions c.render = c.numbers := by
  cases c with
  | sequence => rfl
  | kind j => exact mentions_kind j
  | date j =>
    exact mentions_guarded j _ _ (Text.startsOutside_cons.mpr rfl) rfl j.outside_asText
      j.mentions_asText (Text.startsOutside_cons.mpr rfl) rfl
  | number j =>
    exact mentions_guarded j _ _ (Text.startsOutside_cons.mpr rfl) rfl j.outside_asText
      j.mentions_asText (Text.startsOutside_cons.mpr rfl) rfl
  | other j =>
    exact mentions_guarded j _ _ (Text.startsOutside_cons.mpr rfl) rfl j.outside j.mentions_render
      (Text.startsOutside_cons.mpr rfl) rfl
  | text j =>
    have tested := mentions_guarded j " = 'string' AND opcat_date(" ") IS NULL THEN ("
      (Text.startsOutside_cons.mpr rfl) rfl j.outside_asText j.mentions_asText
      (Text.startsOutside_cons.mpr rfl) rfl
    rw [render_text, mentions_append (Text.startsOutside_cons.mpr rfl),
      mentions_append j.outside_asText, tested, j.mentions_asText]
    exact List.append_nil _

theorem worded (c : Column) : Worded c.render := by
  have word : Worded "CASE WHEN " := ⟨_, _, rfl, rfl⟩
  cases c with
  | sequence => exact ⟨_, _, rfl, rfl⟩
  | kind j => exact .append (.append (.append ⟨_, _, rfl, rfl⟩ _) _) _
  | date j => exact (((word.append _).append _).append _).append _
  | number j => exact (((word.append _).append _).append _).append _
  | other j => exact (((word.append _).append _).append _).append _
  | text j => exact (((((word.append _).append _).append _).append _).append _).append _

end Column

theorem SortTerm.mentions_render (t : SortTerm) : mentions t.render = t.column.numbers := by
  have nulls : StartsOutside isDigit t.nulls.render.toList ∧ mentions t.nulls.render = [] := by
    cases t.nulls <;> exact ⟨by simp [StartsOutside, isDigit, Nulls.render], rfl⟩
  have way : StartsOutside isDigit (if t.descending then " DESC" else " ASC").toList ∧
      mentions (if t.descending then " DESC" else " ASC") = [] := by
    cases t.descending <;> exact ⟨Text.startsOutside_cons.mpr rfl, rfl⟩
  rw [render, mentions_append nulls.1, mentions_append way.1, nulls.2, way.2,
    Column.mentions_render, List.append_nil, List.append_nil]

theorem SortTerm.worded (t : SortTerm) : Worded t.render := (t.column.worded.append _).append _

theorem outside_terms (t : SortTerm) (terms : List SortTerm) :
    StartsOutside isDigit (", ".intercalate ((t :: terms).map SortTerm.render)).toList := by
  cases terms with
  | nil => simpa using t.worded.outside
  | cons u terms =>
    rw [List.map_cons, List.map_cons, String.intercalate_cons_cons]
    exact ((t.worded.append _).append _).outside

theorem mentions_renderOrder (terms : List SortTerm) :
    mentions (renderOrder terms) = terms.flatMap fun t => t.column.numbers := by
  unfold renderOrder
  induction terms with
  | nil => rfl
  | cons t terms ih =>
    cases terms with
    | nil => simp [t.mentions_render]
    | cons u terms =>
      rw [List.map_cons, List.map_cons, String.intercalate_cons_cons, ← List.map_cons,
        mentions_append (outside_terms u terms), mentions_append (Text.startsOutside_cons.mpr rfl),
        ih, t.mentions_render]
      exact congrArg (· ++ _) (List.append_nil _)

theorem keyTerms_met (p : Placeholder) (d : Query.Direction) :
    ∀ q ∈ (keyTerms p d).flatMap fun t => t.column.numbers, q = p := by
  cases d <;> simp [keyTerms, Column.numbers, Operand.numbers]

theorem keyTerms_counts (n : Nat) (d : Query.Direction) :
    Counts n n ((keyTerms (n + 1) d).flatMap fun t => t.column.numbers) (n + 1) := by
  have later : ∀ q ∈ ((keyTerms (n + 1) d).flatMap fun t => t.column.numbers).tail,
      n < q ∧ q ≤ n + 1 := fun q member => by
    rw [keyTerms_met (n + 1) d q (List.mem_of_mem_tail member)]
    exact ⟨Nat.lt_succ_self n, Nat.le_refl _⟩
  cases d <;> exact .next (.of_met later)

theorem ofRanking_counts (n : Nat) (r : Query.Ranking) :
    Counts n n (mentions (renderOrder (ofRanking n r).1)) (n + (ofRanking n r).2.length) := by
  rw [mentions_renderOrder]
  induction r generalizing n with
  | nil => exact .nil
  | cons key rest ih =>
    rw [ofRanking, List.flatMap_append, List.length_cons, Nat.add_comm (List.length _)]
    exact (keyTerms_counts n key.direction).follow (ih (n + 1))

theorem ofSelection_counts (n : Nat) (s : Query.Selection) :
    Counts n n (mentions (ofSelection n s).1) (n + (ofSelection n s).2.length) := by
  unfold ofSelection
  cases s.limit with
  | none => exact .nil
  | some limit =>
    have written : mentions (renderWindow (n + 1) (n + 2)) = [n + 1, n + 2] := by
      rw [renderWindow, mentions_append (outside_placeholder _),
        mentions_append (Text.startsOutside_cons.mpr rfl), mentions_append (outside_placeholder _),
        mentions_placeholder, mentions_placeholder]
      rfl
    rw [written]
    exact .next (.next .nil)

/-! The calls of one translator -/

theorem emit_counts (n : Nat) (call : Call) :
    Counts n n (mentions (call.emit n).1) (n + (call.emit n).2.length) := by
  cases call with
  | filter f => exact ofFilter_counts n f
  | order r => exact ofRanking_counts n r
  | window s => exact ofSelection_counts n s

theorem prefix_boundBy (bound : List Param) (calls : List Call) :
    bound <+: boundBy bound calls := by
  induction calls generalizing bound with
  | nil => exact List.prefix_refl _
  | cons call calls ih => exact (List.prefix_append _ _).trans (ih _)

/-- Of every call of one translator: its text first mentions its own parameters in their order,
mentions no other one, and the numbers it mentions find those parameters among all that are bound
in the end. -/
theorem placeholders_number_params (bound : List Param) (calls : List Call) :
    ∀ e ∈ translate bound calls,
      (mentions e.text).eraseDups = List.range' (e.before.length + 1) e.params.length ∧
      e.before ++ e.params <+: boundBy bound calls := by
  induction calls generalizing bound with
  | nil => exact fun _ none => nomatch none
  | cons call calls ih =>
    refine List.forall_mem_cons.mpr ⟨⟨?_, prefix_boundBy _ calls⟩, fun e member => ih _ e member⟩
    exact (emit_counts bound.length call).eraseDups

/-- The calls for a page of the listings with a flag or nothing for a score. -/
def pagedCalls : List Call :=
  [.filter [.field "score" (.oneOf [.value .null, .value (.bool true)])],
    .window { page := 2, limit := some 10 }]

/-- Behind the parameter that names the collection. -/
theorem placeholders_number_params_paged : ∃ first second,
    translate [.text "listings"] pagedCalls = [first, second] ∧
      (mentions first.text).eraseDups = [2, 3, 4] ∧
      (mentions second.text).eraseDups = [5, 6] := by
  have numbered := placeholders_number_params [.text "listings"] pagedCalls
  refine ⟨_, _, rfl, ?_, ?_⟩
  · exact (numbered _ List.mem_cons_self).1
  · exact (numbered _ (List.mem_cons_of_mem _ List.mem_cons_self)).1

end Catalog.Sql
