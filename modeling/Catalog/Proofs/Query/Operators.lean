import Catalog.Proofs.Json.Same
import Catalog.Proofs.Lists
import Catalog.Query.FilterReader

/-!
The operators of a field, written and read back. Conditions come from operators one by one, in the
order of the operators' names, so a field that was read is written with those operators again. Only
a lone equality is written without its operator, and there the literal itself may be taken for an
object of operators.
-/
namespace Catalog

open Json

theorem Pattern.of_make [Pattern.SizeLimit] {source options : String} {p : Pattern}
    (made : Pattern.make source options = .ok p) : p.source = source ∧ p.options = options := by
  obtain ⟨o, -, more⟩ := bind_eq_ok.mp made
  split at more
  · cases more
  · split at more
    · cases more
    · dsimp only at more
      split at more
      · cases more
      · cases more
        exact ⟨rfl, rfl⟩

namespace Query

/-- Equality of items as the program compares them: a pattern is known by its source and options. -/
def Item.Same : Item → Item → Prop
  | .value v, .value w => v.same w = true
  | .pattern p, .pattern q => p.source = q.source ∧ p.options = q.options
  | _, _ => False

theorem Item.same_refl (item : Item) : item.Same item := by
  cases item with
  | value v => exact v.same_refl
  | pattern p => exact ⟨rfl, rfl⟩

namespace Condition

def Same : Condition → Condition → Prop
  | .eq v, .eq w => v.same w = true
  | .regex p, .regex q => p.source = q.source ∧ p.options = q.options
  | .gte v, .gte w => v.same w = true
  | .lt v, .lt w => v.same w = true
  | .oneOf items, .oneOf others => List.Forall₂ Item.Same items others
  | _, _ => False

theorem same_refl (c : Condition) : c.Same c := by
  cases c with
  | eq v | gte v | lt v => exact v.same_refl
  | regex p => exact ⟨rfl, rfl⟩
  | oneOf items => exact List.forall₂_same.mpr fun item _ => item.same_refl

/-- The operator that the condition is read from. -/
def operator : Condition → String
  | .eq _ => "$eq"
  | .regex _ => "$regex"
  | .gte _ => "$gte"
  | .lt _ => "$lt"
  | .oneOf _ => "$in"

def members : Condition → Members
  | .eq v => [("$eq", v)]
  | .regex p => Filter.patternMembers p
  | .gte bound => [("$gte", bound)]
  | .lt bound => [("$lt", bound)]
  | .oneOf items => [("$in", .array (items.map Filter.itemValue))]

/-- Whatever the condition was made from, it can be made from its own text as well. -/
def Readable [Pattern.SizeLimit] : Condition → Prop
  | .regex p => Pattern.make p.source p.options = .ok p
  | .oneOf items => ∀ item ∈ items, Filter.readItem (Filter.itemValue item) = .ok item
  | _ => True

theorem members_before {a b : Condition} (before : Text.Before a.operator b.operator) :
    ∀ m ∈ a.members, ∀ n ∈ b.members, Text.Before m.1 n.1 := by
  cases a <;> cases b <;> revert before <;>
    simp only [operator, members, Filter.patternMembers, List.mem_cons, List.not_mem_nil, or_false,
      forall_eq_or_imp, forall_eq] <;> decide

theorem sorted_members (c : Condition) : Members.Sorted c.members := by
  cases c with
  | regex p =>
    have before : Text.Before "$options" "$regex" := by decide
    exact List.pairwise_pair.mpr before
  | eq | gte | lt | oneOf => exact List.pairwise_singleton _ _

theorem dollar_of_members {c : Condition} {m : String × Value} (member : m ∈ c.members) :
    Filter.startsWithDollar m.1 = true := by
  have known : m.1 ∈ ["$eq", "$gte", "$in", "$lt", "$options", "$regex"] := by
    cases c <;> revert member <;> simp +contextual [members, Filter.patternMembers, or_imp]
  have each : ∀ name ∈ ["$eq", "$gte", "$in", "$lt", "$options", "$regex"],
      Filter.startsWithDollar name = true := by decide
  exact each m.1 known

end Condition

namespace Filter

variable {operators : Members} {options : Option String} {name : String} {v operand : Value}
  {cs others chunk : List Condition} {chunks : List (List Condition)} {p : Pattern}

/-! Operators, written -/

/-- An object that has a name with a dollar is read as operators. -/
def spellsOperators (operators : Members) : Bool :=
  operators.any fun (name, _) => startsWithDollar name

theorem spellsOperators_members (present : cs ≠ []) :
    spellsOperators (cs.flatMap Condition.members) = true := by
  obtain ⟨c, held⟩ := List.exists_mem_of_ne_nil _ present
  have named : c.members ≠ [] := by cases c <;> exact List.cons_ne_nil _ _
  obtain ⟨m, member⟩ := List.exists_mem_of_ne_nil _ named
  exact List.any_eq_true.mpr
    ⟨m, List.mem_flatMap.mpr ⟨c, held, member⟩, Condition.dollar_of_members member⟩

theorem pattern_of_options {v : Value} (member : ("$options", v) ∈ cs.flatMap Condition.members) :
    ∃ p, .regex p ∈ cs ∧ v = .text p.options := by
  obtain ⟨c, held, member⟩ := List.mem_flatMap.mp member
  cases c with
  | regex p =>
    refine ⟨p, held, ?_⟩
    simpa [Condition.members, patternMembers] using member
  | eq | gte | lt | oneOf => simp [Condition.members] at member

theorem collapse_members (cs : List Condition) :
    (∃ v, cs = [.eq v] ∧ collapse (.object (cs.flatMap Condition.members)) = v) ∨
      collapse (.object (cs.flatMap Condition.members)) = .object (cs.flatMap Condition.members) := by
  match cs with
  | [] => exact .inr rfl
  | [.eq v] => exact .inl ⟨v, rfl, rfl⟩
  | [.gte _] | [.lt _] | [.oneOf _] | [.regex _] => exact .inr rfl
  | c :: d :: rest =>
    have first : ∃ m ms, c.members = m :: ms := by cases c <;> exact ⟨_, _, rfl⟩
    have second : ∃ m ms, d.members = m :: ms := by cases d <;> exact ⟨_, _, rfl⟩
    obtain ⟨m, ms, first⟩ := first
    obtain ⟨n, ns, second⟩ := second
    rw [List.flatMap_cons, List.flatMap_cons, first, second]
    cases ms <;> exact .inr rfl

/-! Patterns -/

variable [Pattern.SizeLimit]

theorem makePattern_eq_ok {source : String} :
    makePattern source options = .ok p ↔
      Pattern.make source (options.getD Pattern.defaultOptions) = .ok p := by
  unfold makePattern Pattern.new
  cases Pattern.make source (options.getD Pattern.defaultOptions) with
  | error => exact ⟨nofun, nofun⟩
  | ok made => exact ⟨fun same => by cases same; rfl, fun same => by cases same; rfl⟩

theorem make_of_makePattern {source : String} (made : makePattern source options = .ok p) :
    Pattern.make p.source p.options = .ok p := by
  have made := makePattern_eq_ok.mp made
  obtain ⟨source, options⟩ := Pattern.of_make made
  rw [source, options]
  exact made

theorem readItem_itemValue {entry : Value} {item : Item} (read : readItem entry = .ok item) :
    readItem (itemValue item) = .ok item := by
  unfold readItem at read
  split at read
  · obtain ⟨p, made, done⟩ := bind_eq_ok.mp read
    cases done
    have again : makePattern p.source (some p.options) = .ok p :=
      makePattern_eq_ok.mpr (make_of_makePattern made)
    exact bind_eq_ok.mpr ⟨p, again, rfl⟩
  · cases read
  · rename_i none
    cases read
    unfold itemValue readItem
    simp only [none]

/-! Reading -/

/-- What one operator among the others of its field is read as. -/
inductive Reads (operators : Members) : String → Value → List Condition → Prop
  | options (v : Value) (pattern : (Members.get? "$regex" operators).isSome = true) :
    Reads operators "$options" v []
  | condition (c : Condition) (v : Value) (readable : c.Readable)
    (literal : ∀ w, c = .eq w → w = v) : Reads operators c.operator v [c]

theorem reads_of_readOperator (read : readOperator operators options name v = .ok chunk) :
    Reads operators name v chunk := by
  unfold readOperator at read
  split at read
  · cases read
    exact .condition (.eq v) v trivial fun w same => by cases same; rfl
  · split at read
    · obtain ⟨p, made, done⟩ := bind_eq_ok.mp read
      cases done
      exact .condition (.regex p) _ (make_of_makePattern made) nofun
    · cases read
  · split at read
    · rename_i pattern
      cases read
      exact .options v pattern
    · cases read
  · cases read
    exact .condition (.gte v) v trivial nofun
  · cases read
    exact .condition (.lt v) v trivial nofun
  · split at read
    · obtain ⟨items, readItems, done⟩ := bind_eq_ok.mp read
      cases done
      refine .condition (.oneOf items) _ (fun item member => ?_) nofun
      obtain ⟨entry, -, readEntry⟩ := exists_of_mem_forall₂ (mapM_eq_ok.mp readItems) member
      exact readItem_itemValue readEntry
    · cases read
  · cases read

section Chunks

variable {members : Members}
  (reads : List.Forall₂ (fun m chunk => Reads operators m.1 m.2 chunk) members chunks)

include reads

theorem exists_operator {c : Condition} (held : c ∈ chunks.flatten) :
    ∃ m ∈ members, c.operator = m.1 ∧ c.Readable ∧ ∀ w, c = .eq w → w = m.2 := by
  obtain ⟨chunk, inside, held⟩ := List.mem_flatten.mp held
  obtain ⟨m, member, read⟩ := exists_of_mem_forall₂ reads inside
  obtain ⟨name, v⟩ := m
  cases read with
  | options => cases held
  | condition d v readable literal =>
    cases List.mem_singleton.mp held
    exact ⟨_, member, rfl, readable, literal⟩

theorem ordered_flatten (sorted : Members.Sorted members) :
    chunks.flatten.Pairwise fun a b => Text.Before a.operator b.operator := by
  induction reads with
  | nil => exact List.Pairwise.nil
  | @cons m chunk members chunks read rest ih =>
    obtain ⟨above, sortedRest⟩ := List.pairwise_cons.mp sorted
    obtain ⟨name, v⟩ := m
    cases read with
    | options => exact ih sortedRest
    | condition c v =>
      refine List.pairwise_cons.mpr ⟨fun d later => ?_, ih sortedRest⟩
      obtain ⟨m, member, operator, -⟩ := exists_operator rest later
      rw [operator]
      exact above m member

/-- Options alone are refused, so operators that were read leave some condition. -/
theorem flatten_ne_nil (any : members ≠ []) (inside : members = operators) :
    chunks.flatten ≠ [] := by
  intro none
  -- Otherwise every operator is options, the pattern that options must stand beside among them.
  have only : ∀ m ∈ members, m.1 = "$options" ∧ (Members.get? "$regex" operators).isSome = true := by
    intro m member
    obtain ⟨chunk, held, read⟩ := exists_of_mem_forall₂ reads.flip member
    have empty : chunk = [] := List.flatten_eq_nil_iff.mp none chunk held
    obtain ⟨name, v⟩ := m
    subst empty
    cases read with
    | options v pattern => exact ⟨rfl, pattern⟩
  obtain ⟨m, member⟩ := List.exists_mem_of_ne_nil _ any
  obtain ⟨source, found⟩ := Option.isSome_iff_exists.mp (only m member).2
  have lone : "$regex" = "$options" := (only _ (inside ▸ Members.mem_of_get? found)).1
  exact absurd lone (by decide)

end Chunks

/-- Conditions as one field asks for them: each operator at most once, in the order of the names. -/
structure Spoken (cs : List Condition) : Prop where
  present : cs ≠ []
  ordered : cs.Pairwise fun a b => Text.Before a.operator b.operator
  readable : ∀ c ∈ cs, c.Readable

theorem spoken_literal (v : Value) : Spoken [.eq v] where
  present := List.cons_ne_nil _ _
  ordered := List.pairwise_singleton _ _
  readable c member := by
    cases List.mem_singleton.mp member
    trivial

theorem readField_operators (spells : spellsOperators operators = true) :
    readField (.object operators) = (do
      let options ← readOptions operators
      let conditions ← operators.mapM fun (name, v) => readOperator operators options name v
      .ok conditions.flatten) := by
  unfold spellsOperators at spells
  simp only [readField, spells, if_true]

theorem readField_literal (plain : ∀ operators, operand = .object operators →
    spellsOperators operators = false) : readField operand = .ok [.eq operand] := by
  cases operand with
  | object operators =>
    have plain := plain operators rfl
    unfold spellsOperators at plain
    simp [readField, plain]
  | null | bool | number | text | array => rfl

theorem reads_of_readField (spells : spellsOperators operators = true)
    (read : readField (.object operators) = .ok cs) :
    ∃ chunks, cs = chunks.flatten ∧
      List.Forall₂ (fun m chunk => Reads operators m.1 m.2 chunk) operators chunks := by
  rw [readField_operators spells] at read
  obtain ⟨options, -, more⟩ := bind_eq_ok.mp read
  obtain ⟨chunks, each, done⟩ := bind_eq_ok.mp more
  cases done
  exact ⟨chunks, rfl, (mapM_eq_ok.mp each).imp fun _ _ readOne => reads_of_readOperator readOne⟩

theorem spoken_of_readField (formed : operand.WellFormed) (read : readField operand = .ok cs) :
    Spoken cs := by
  by_cases spells : ∃ operators, operand = .object operators ∧ spellsOperators operators = true
  · obtain ⟨operators, rfl, spells⟩ := spells
    obtain ⟨chunks, rfl, reads⟩ := reads_of_readField spells read
    obtain ⟨m, member, -⟩ := List.any_eq_true.mp spells
    refine ⟨flatten_ne_nil reads (List.ne_nil_of_mem member) rfl, ordered_flatten reads formed.1, ?_⟩
    intro c held
    obtain ⟨-, -, -, readable, -⟩ := exists_operator reads held
    exact readable
  · have plain : ∀ operators, operand = .object operators → spellsOperators operators = false :=
      fun operators same => Bool.eq_false_iff.mpr fun any => spells ⟨operators, same, any⟩
    rw [readField_literal plain] at read
    cases read
    exact spoken_literal operand

/-! Reading what was written -/

theorem Spoken.sorted (spoken : Spoken cs) : Members.Sorted (cs.flatMap Condition.members) :=
  List.pairwise_flatMap.mpr ⟨fun c _ => c.sorted_members,
    spoken.ordered.imp fun before => Condition.members_before before⟩

theorem Spoken.readOptions (spoken : Spoken cs) :
    ∃ options, Filter.readOptions (cs.flatMap Condition.members) = .ok options ∧
      ∀ p, .regex p ∈ cs → options = some p.options := by
  unfold Filter.readOptions
  cases found : Members.get? "$options" (cs.flatMap Condition.members) with
  | none =>
    refine ⟨none, rfl, fun p held => ?_⟩
    have member : ("$options", Value.text p.options) ∈ cs.flatMap Condition.members :=
      List.mem_flatMap.mpr ⟨_, held, List.mem_cons_self⟩
    rw [Members.get?_of_mem spoken.sorted member] at found
    cases found
  | some v =>
    obtain ⟨q, -, rfl⟩ := pattern_of_options (Members.mem_of_get? found)
    refine ⟨some q.options, rfl, fun p held => ?_⟩
    have member : ("$options", Value.text p.options) ∈ cs.flatMap Condition.members :=
      List.mem_flatMap.mpr ⟨_, held, List.mem_cons_self⟩
    rw [Members.get?_of_mem spoken.sorted member] at found
    simpa using found.symm

theorem readOperator_members {c : Condition} (readable : c.Readable)
    (known : ∀ p, c = .regex p →
      options = some p.options ∧ (Members.get? "$regex" operators).isSome = true) :
    ∃ chunks, List.Forall₂ (fun (m : String × Value) chunk =>
        readOperator operators options m.1 m.2 = .ok chunk) c.members chunks ∧
      chunks.flatten = [c] := by
  cases c with
  | eq v | gte v | lt v => exact ⟨[_], .cons rfl .nil, rfl⟩
  | oneOf items =>
    have each : (items.map itemValue).mapM readItem = .ok items :=
      mapM_eq_ok.mpr (List.forall₂_map_left_iff.mpr (List.forall₂_same.mpr readable))
    exact ⟨[_], .cons (bind_eq_ok.mpr ⟨items, each, rfl⟩) .nil, rfl⟩
  | regex p =>
    obtain ⟨rfl, pattern⟩ := known p rfl
    have made : makePattern p.source (some p.options) = .ok p := makePattern_eq_ok.mpr readable
    refine ⟨[[], [.regex p]], .cons ?_ (.cons (bind_eq_ok.mpr ⟨p, made, rfl⟩) .nil), rfl⟩
    exact if_pos pattern

theorem readOperators_members (readable : ∀ c ∈ cs, c.Readable)
    (known : ∀ p, .regex p ∈ cs →
      options = some p.options ∧ (Members.get? "$regex" operators).isSome = true) :
    ∃ chunks, List.Forall₂ (fun (m : String × Value) chunk =>
        readOperator operators options m.1 m.2 = .ok chunk) (cs.flatMap Condition.members) chunks ∧
      chunks.flatten = cs := by
  induction cs with
  | nil => exact ⟨[], .nil, rfl⟩
  | cons c cs ih =>
    obtain ⟨first, rest⟩ := List.forall_mem_cons.mp readable
    obtain ⟨chunks, front, joined⟩ :=
      readOperator_members first fun p same => known p (same ▸ List.mem_cons_self)
    obtain ⟨more, back, joinedRest⟩ := ih rest fun p held => known p (List.mem_cons_of_mem _ held)
    refine ⟨chunks ++ more, List.rel_append front back, ?_⟩
    rw [List.flatten_append, joined, joinedRest, List.singleton_append]

theorem Spoken.readField_members (spoken : Spoken cs) :
    readField (.object (cs.flatMap Condition.members)) = .ok cs := by
  obtain ⟨options, readAll, ofPattern⟩ := spoken.readOptions
  have known : ∀ p, .regex p ∈ cs → options = some p.options ∧
      (Members.get? "$regex" (cs.flatMap Condition.members)).isSome = true := by
    intro p held
    have member : ("$regex", Value.text p.source) ∈ cs.flatMap Condition.members :=
      List.mem_flatMap.mpr ⟨_, held, List.mem_cons_of_mem _ List.mem_cons_self⟩
    rw [Members.get?_of_mem spoken.sorted member]
    exact ⟨ofPattern p held, rfl⟩
  obtain ⟨chunks, each, joined⟩ := readOperators_members spoken.readable known
  rw [readField_operators (spellsOperators_members spoken.present)]
  refine bind_eq_ok.mpr ⟨options, readAll, bind_eq_ok.mpr ⟨chunks, mapM_eq_ok.mpr each, ?_⟩⟩
  rw [joined]

/-! The lone equality -/

/-- The conditions are one equality, with a literal that reads as operators. -/
inductive Veiled : List Condition → Prop
  | literal {operators : Members} (spells : spellsOperators operators = true) :
    Veiled [.eq (.object operators)]

theorem Spoken.readField_collapse (spoken : Spoken cs) (plain : ¬ Veiled cs) :
    readField (collapse (.object (cs.flatMap Condition.members))) = .ok cs := by
  rcases collapse_members cs with ⟨v, rfl, lone⟩ | whole
  -- A lone equality leaves its bare literal, which is no object of operators.
  · rw [lone]
    refine readField_literal fun operators same => Bool.eq_false_iff.mpr fun spells => plain ?_
    rw [same]
    exact .literal spells
  · rw [whole]
    exact spoken.readField_members

/-- The literal of an equality among operators lies inside them, so it is not the object they make
up. -/
theorem Veiled.not_same (veiled : Veiled cs)
    (read : readField (collapse (.object (cs.flatMap Condition.members))) = .ok others) :
    ¬ List.Forall₂ Condition.Same others cs := by
  obtain ⟨spells⟩ := veiled
  rename_i operators
  obtain ⟨chunks, rfl, reads⟩ := reads_of_readField spells read
  intro same
  obtain ⟨c, held, equal⟩ := exists_of_mem_forall₂ same List.mem_cons_self
  cases c with
  | eq w =>
    obtain ⟨m, member, -, -, literal⟩ := exists_operator reads held
    have inside : w.depth ≤ Value.membersDepth operators := by
      rw [literal w rfl]
      exact Value.membersDepth_le.mp (Nat.le_refl _) m member
    have apart : w.same (.object operators) = false :=
      Value.not_same_of_depth_lt (Nat.lt_succ_of_le inside)
    exact absurd (apart.symm.trans equal) (by decide)
  | regex | gte | lt | oneOf => cases equal

end Filter

end Query

end Catalog
