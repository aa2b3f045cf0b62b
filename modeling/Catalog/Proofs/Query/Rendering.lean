import Mathlib.Data.List.Induction
import Catalog.Proofs.Query.Operators

/-!
Filters written and read back. A filter that was read consists of parts, one for each member of the
object it was read from. Writing it gives those members again, so reading once more gives the same
clauses in the same order, unless some field's literal is taken for operators.
-/
namespace Catalog.Query

open Json

/-- Equality of clauses as the program compares them. -/
inductive Clause.Same : Clause → Clause → Prop
  | field {path : String} {c d : Condition} (same : c.Same d) : Same (.field path c) (.field path d)
  | either {as bs : List (List Clause)} (same : List.Forall₂ (List.Forall₂ Clause.Same) as bs) :
    Same (.either as) (.either bs)

namespace Filter

def Same (f g : Filter) : Prop := List.Forall₂ Clause.Same f g

mutual

theorem same_refl (f : List Clause) : Same f f := by
  match f with
  | [] => exact .nil
  | .field path c :: rest => exact .cons (.field c.same_refl) (same_refl rest)
  | .either alternatives :: rest => exact .cons (.either (sames_refl alternatives)) (same_refl rest)

theorem sames_refl (alternatives : List (List Clause)) :
    List.Forall₂ (List.Forall₂ Clause.Same) alternatives alternatives := by
  match alternatives with
  | [] => exact .nil
  | f :: rest => exact .cons (same_refl f) (sames_refl rest)

end

/-- What the filter asks of the value at a path. -/
def conditionsAt (path : String) (f : Filter) : List Condition :=
  f.filterMap fun
    | .field other c => if other = path then some c else none
    | .either _ => none

/-- The alternatives that the filter offers, group by group. -/
def groups (f : Filter) : List (List Filter) :=
  f.filterMap fun
    | .field _ _ => none
    | .either alternatives => some alternatives

/-- Somewhere in the filter the only condition on a field is an equality with an object that has a
name with a dollar. -/
inductive Disguised : Filter → Prop
  | field {f : Filter} {path : String} (veiled : Veiled (conditionsAt path f)) : Disguised f
  | group {f g : Filter} {alternatives : List Filter} (offered : alternatives ∈ groups f)
    (held : g ∈ alternatives) (disguised : Disguised g) : Disguised f

/-- A part of a filter: all that is asked of one field, or one group of alternatives. -/
inductive Part where
  | field (path : String) (conditions : List Condition)
  | either (alternatives : List Filter)

namespace Part

def name : Part → String
  | .field path _ => path
  | .either _ => "$or"

def clauses : Part → List Clause
  | .field path conditions => conditions.map (.field path)
  | .either alternatives => [.either alternatives]

def value : Part → Value
  | .field _ conditions => collapse (.object (conditions.flatMap Condition.members))
  | .either alternatives => .array (alternatives.map toJson)

end Part

variable {f g : Filter} {parts : List Part} {part : Part} {members : Members} {path name : String}
  {v operand : Value} {cs : List Condition} {values : List Value} {alternatives : List Filter}

/-! What is asked at a path -/

def Ordered (parts : List Part) : Prop := parts.Pairwise fun a b => Text.Before a.name b.name

theorem conditionsAt_append (path : String) (f g : Filter) :
    conditionsAt path (f ++ g) = conditionsAt path f ++ conditionsAt path g :=
  List.filterMap_append

theorem conditionsAt_map (path other : String) (cs : List Condition) :
    conditionsAt path (cs.map (.field other)) = if other = path then cs else [] := by
  induction cs with
  | nil => simp [conditionsAt]
  | cons c cs ih =>
    have joined := conditionsAt_append path [.field other c] (cs.map (.field other))
    rw [List.map_cons, ← List.singleton_append, joined, ih]
    split <;> simp_all [conditionsAt]

theorem groups_map (path : String) (cs : List Condition) : groups (cs.map (.field path)) = [] := by
  induction cs with
  | nil => rfl
  | cons c cs ih => exact ih

theorem flatMap_named {β : Type} {take : Part → List β} (ordered : Ordered parts)
    (held : part ∈ parts) (apart : ∀ other : Part, other.name ≠ part.name → take other = []) :
    parts.flatMap take = take part := by
  induction parts with
  | nil => cases held
  | cons first rest ih =>
    obtain ⟨above, orderedRest⟩ := List.pairwise_cons.mp ordered
    rw [List.flatMap_cons]
    rcases List.mem_cons.mp held with rfl | later
    · have others : rest.flatMap take = [] := by
        apply List.flatMap_eq_nil_iff.mpr
        intro other member
        exact apart other fun same => Text.not_before_self part.name (same ▸ above other member)
      rw [others, List.append_nil]
    · have differ : first.name ≠ part.name := fun same =>
        Text.not_before_self part.name (same ▸ above part later)
      rw [apart first differ, List.nil_append, ih orderedRest later]

theorem conditionsAt_parts (path : String) (parts : List Part) :
    conditionsAt path (parts.flatMap Part.clauses) =
      parts.flatMap fun part => conditionsAt path part.clauses :=
  List.filterMap_flatMap

theorem groups_parts (parts : List Part) :
    groups (parts.flatMap Part.clauses) = parts.flatMap fun part => groups part.clauses :=
  List.filterMap_flatMap

theorem conditionsAt_field (ordered : Ordered parts) (held : .field path cs ∈ parts) :
    conditionsAt path (parts.flatMap Part.clauses) = cs := by
  rw [conditionsAt_parts, flatMap_named ordered held]
  · exact (conditionsAt_map path path cs).trans (if_pos rfl)
  · intro other differ
    cases other with
    | field name others => exact (conditionsAt_map path name others).trans (if_neg differ)
    | either => rfl

theorem groups_either (ordered : Ordered parts) (held : .either alternatives ∈ parts) :
    groups (parts.flatMap Part.clauses) = [alternatives] := by
  rw [groups_parts, flatMap_named ordered held]
  · rfl
  · intro other differ
    cases other with
    | field name others => exact groups_map name others
    | either => exact absurd rfl differ

theorem field_of_conditionsAt (asked : conditionsAt path (parts.flatMap Part.clauses) ≠ []) :
    ∃ cs, .field path cs ∈ parts := by
  by_contra none
  apply asked
  rw [conditionsAt_parts]
  apply List.flatMap_eq_nil_iff.mpr
  intro part held
  cases part with
  | field name cs =>
    refine (conditionsAt_map path name cs).trans (if_neg ?_)
    rintro rfl
    exact none ⟨cs, held⟩
  | either => rfl

theorem either_of_groups (offered : alternatives ∈ groups (parts.flatMap Part.clauses)) :
    .either alternatives ∈ parts := by
  rw [groups_parts] at offered
  obtain ⟨part, held, inside⟩ := List.mem_flatMap.mp offered
  cases part with
  | field name cs =>
    have inside : alternatives ∈ groups (cs.map (.field name)) := inside
    rw [groups_map] at inside
    cases inside
  | either others =>
    cases List.mem_singleton.mp inside
    exact held

theorem Same.conditionsAt (same : Same g f) (path : String) :
    List.Forall₂ Condition.Same (conditionsAt path g) (conditionsAt path f) := by
  refine List.rel_filterMap (fun a b alike => ?_) same
  cases alike with
  | @field other c d alike =>
    by_cases here : other = path
    · simpa [here] using Option.Rel.some alike
    · simp [here]
  | either => exact Option.Rel.none

theorem Same.groups (same : Same g f) : List.Forall₂ (List.Forall₂ Same) (groups g) (groups f) := by
  refine List.rel_filterMap (fun a b alike => ?_) same
  cases alike with
  | field => exact Option.Rel.none
  | either alike => exact Option.Rel.some alike

theorem Veiled.literal_mem (veiled : Veiled (conditionsAt path f)) :
    ∃ operators, spellsOperators operators = true ∧ .field path (.eq (.object operators)) ∈ f := by
  generalize asked : conditionsAt path f = cs at veiled
  cases veiled with
  | @literal operators spells =>
    refine ⟨operators, spells, ?_⟩
    have member : .eq (.object operators) ∈ conditionsAt path f := asked ▸ List.mem_cons_self
    obtain ⟨clause, held, taken⟩ := List.mem_filterMap.mp member
    cases clause with
    | either => cases taken
    | field other c =>
      simp only [Option.ite_none_right_eq_some, Option.some.injEq] at taken
      obtain ⟨rfl, rfl⟩ := taken
      exact held

/-! Writing -/

theorem fieldOperators_snoc (f : Filter) (clause : Clause) :
    fieldOperators (f ++ [clause]) =
      match clause with
      | .field path c => Members.insert path (.object (addOperators c
          (Document.membersOf ((Members.get? path (fieldOperators f)).getD .null)))) (fieldOperators f)
      | .either _ => fieldOperators f := by
  unfold fieldOperators
  rw [List.foldl_append]
  cases clause <;> rfl

theorem sorted_fieldOperators (f : Filter) : Members.Sorted (fieldOperators f) := by
  induction f using List.reverseRecOn with
  | nil => exact List.Pairwise.nil
  | append_singleton f clause ih =>
    rw [fieldOperators_snoc]
    cases clause with
    | field path c => exact Members.sorted_insert ih
    | either => exact ih

theorem addOperators_ofList (c : Condition) (written : Members) :
    addOperators c (Members.ofList written) = Members.ofList (written ++ c.members) := by
  unfold Members.ofList
  rw [List.foldl_append]
  cases c <;> rfl

/-- The operators of a field are those of all its conditions, wherever these stand. -/
theorem get?_fieldOperators (path : String) (f : Filter) :
    Members.get? path (fieldOperators f) =
      if conditionsAt path f = [] then none
      else some (.object (Members.ofList ((conditionsAt path f).flatMap Condition.members))) := by
  induction f using List.reverseRecOn with
  | nil => rfl
  | append_singleton f clause ih =>
    rw [fieldOperators_snoc, conditionsAt_append]
    cases clause with
    | either => simpa [conditionsAt] using ih
    | field other c =>
      by_cases same : other = path
      · subst same
        have earlier : Document.membersOf ((Members.get? other (fieldOperators f)).getD .null) =
            Members.ofList ((conditionsAt other f).flatMap Condition.members) := by
          rw [ih]
          split
          · rename_i none
            rw [none]
            rfl
          · rfl
        have last : conditionsAt other [.field other c] = [c] := by simp [conditionsAt]
        simp only [Members.get?_insert_self, earlier, last, addOperators_ofList, List.flatMap_append]
        simp
      · have last : conditionsAt path [.field other c] = [] := by simp [conditionsAt, same]
        simp only [Members.get?_insert_of_ne (Ne.symm same), ih, last, List.append_nil]

theorem alternativesJson_eq (alternatives : List Filter) :
    alternativesJson alternatives = alternatives.map toJson := by
  induction alternatives with
  | nil => rw [alternativesJson, List.map_nil]
  | cons f rest ih => rw [alternativesJson, ih, List.map_cons, toJson]

theorem groupsJson_eq (f : Filter) :
    groupsJson f = (groups f).flatMap fun alternatives => alternatives.map toJson := by
  induction f with
  | nil => rw [groupsJson]; rfl
  | cons clause rest ih =>
    cases clause with
    | field path c =>
      rw [groupsJson, ih]
      rfl
    | either alternatives =>
      rw [groupsJson, alternativesJson_eq, ih]
      rfl

/-- What the names stand for in the written filter. -/
def Spells (f : Filter) (root : Members) : Prop :=
  ∀ name, Members.get? name root =
    if name = "$or" ∧ groupsJson f ≠ [] then some (.array (groupsJson f))
    else (Members.get? name (fieldOperators f)).map collapse

theorem toJson_eq (f : Filter) :
    ∃ root, toJson f = .object root ∧ Members.Sorted root ∧ Spells f root := by
  have sortedRoot := Members.sorted_map collapse (sorted_fieldOperators f)
  unfold Spells toJson assemble
  cases groupsJson f with
  | nil => exact ⟨_, rfl, sortedRoot, fun name => by simp [Members.get?_map]⟩
  | cons v rest =>
    refine ⟨_, rfl, Members.sorted_insert sortedRoot, fun name => ?_⟩
    by_cases same : name = "$or"
    · simp [same, Members.get?_insert_self]
    · simp [same, Members.get?_insert_of_ne same, Members.get?_map]

/-! The reader, part by part -/

section Limited

variable [Pattern.SizeLimit]

/-- The part is what a member of an object is read as. -/
inductive Part.Reads : String × Value → Part → Prop
  | field {path : String} {operand : Value} {conditions : List Condition}
    (plain : startsWithDollar path = false) (read : readField operand = .ok conditions) :
    Part.Reads (path, operand) (.field path conditions)
  | either {values : List Value} {alternatives : List Filter} (present : values ≠ [])
    (read : List.Forall₂ (fun v g => ofJson v = .ok g) values alternatives) :
    Part.Reads ("$or", .array values) (.either alternatives)

theorem Part.Reads.of_field {path : String} {operand : Value} {part : Part}
    (plain : startsWithDollar path = false) (reads : Part.Reads (path, operand) part) :
    ∃ conditions, part = .field path conditions ∧ readField operand = .ok conditions := by
  cases reads with
  | field _ read => exact ⟨_, rfl, read⟩
  | either => exact absurd plain (by decide)

theorem Part.Reads.of_group {values : List Value} {part : Part}
    (reads : Part.Reads ("$or", .array values) part) :
    ∃ alternatives, part = .either alternatives ∧
      List.Forall₂ (fun v g => ofJson v = .ok g) values alternatives := by
  cases reads with
  | field plain => exact absurd plain (by decide)
  | either _ read => exact ⟨_, rfl, read⟩

theorem readAlternatives_cons : readAlternatives (v :: values) = .ok alternatives ↔
    ∃ f more, ofJson v = .ok f ∧ readAlternatives values = .ok more ∧ alternatives = f :: more := by
  cases v with
  | object members =>
    rw [ofJson]
    constructor
    · intro read
      unfold readAlternatives at read
      obtain ⟨f, first, more⟩ := bind_eq_ok.mp read
      obtain ⟨rest, later, ⟨⟩⟩ := bind_eq_ok.mp more
      exact ⟨f, rest, first, later, rfl⟩
    · rintro ⟨f, rest, first, later, rfl⟩
      unfold readAlternatives
      exact bind_eq_ok.mpr ⟨f, first, bind_eq_ok.mpr ⟨rest, later, rfl⟩⟩
  | null | bool | number | text | array =>
    constructor
    · intro read
      unfold readAlternatives at read
      cases read
    · rintro ⟨_, _, first, -⟩
      cases first

theorem readAlternatives_eq_ok : readAlternatives values = .ok alternatives ↔
    List.Forall₂ (fun v g => ofJson v = .ok g) values alternatives := by
  induction values generalizing alternatives with
  | nil =>
    rw [readAlternatives, List.forall₂_nil_left_iff]
    constructor
    · rintro ⟨⟩
      rfl
    · rintro rfl
      rfl
  | cons v values ih => simp only [readAlternatives_cons, List.forall₂_cons_left_iff, ih]

theorem readMembers_cons : readMembers ((name, operand) :: members) = .ok f ↔
    ∃ part more, Part.Reads (name, operand) part ∧ readMembers members = .ok more ∧
      f = part.clauses ++ more := by
  constructor
  · intro read
    unfold readMembers at read
    dsimp only at read
    split at read
    · rename_i group
      cases beq_iff_eq.mp group
      split at read
      · obtain ⟨alternatives, offered, more⟩ := bind_eq_ok.mp read
        obtain ⟨_, ⟨⟩, more⟩ := bind_eq_ok.mp more
        obtain ⟨rest, later, ⟨⟩⟩ := bind_eq_ok.mp more
        exact ⟨.either alternatives, rest,
          .either (List.cons_ne_nil _ _) (readAlternatives_eq_ok.mp offered), later, rfl⟩
      · cases read
    · split at read
      · cases read
      · rename_i plain
        obtain ⟨conditions, asked, more⟩ := bind_eq_ok.mp read
        obtain ⟨_, ⟨⟩, more⟩ := bind_eq_ok.mp more
        obtain ⟨rest, later, ⟨⟩⟩ := bind_eq_ok.mp more
        exact ⟨.field name conditions, rest, .field (Bool.eq_false_iff.mpr plain) asked, later, rfl⟩
  · rintro ⟨part, rest, reads, later, rfl⟩
    unfold readMembers
    cases reads with
    | @field _ _ conditions plain read =>
      have group : (name == "$or") = false := by
        apply beq_false_of_ne
        rintro rfl
        exact absurd plain (by decide)
      simp only [group, plain]
      exact bind_eq_ok.mpr
        ⟨conditions, read, bind_eq_ok.mpr ⟨_, rfl, bind_eq_ok.mpr ⟨rest, later, rfl⟩⟩⟩
    | @either values alternatives present read =>
      cases values with
      | nil => exact absurd rfl present
      | cons v values =>
        exact bind_eq_ok.mpr ⟨alternatives, readAlternatives_eq_ok.mpr read,
          bind_eq_ok.mpr ⟨_, rfl, bind_eq_ok.mpr ⟨rest, later, rfl⟩⟩⟩

theorem readMembers_eq_ok : readMembers members = .ok f ↔
    ∃ parts, List.Forall₂ Part.Reads members parts ∧ f = parts.flatMap Part.clauses := by
  induction members generalizing f with
  | nil =>
    rw [readMembers]
    constructor
    · rintro ⟨⟩
      exact ⟨[], .nil, rfl⟩
    · rintro ⟨parts, reads, rfl⟩
      cases reads
      rfl
  | cons m members ih =>
    rw [readMembers_cons]
    constructor
    · rintro ⟨part, more, first, later, rfl⟩
      obtain ⟨parts, reads, rfl⟩ := ih.mp later
      exact ⟨part :: parts, .cons first reads, rfl⟩
    · rintro ⟨parts, reads, rfl⟩
      cases reads with
      | @cons _ part _ parts first rest =>
        exact ⟨part, parts.flatMap Part.clauses, first, ih.mpr ⟨parts, rest, rfl⟩, rfl⟩

/-- Parts as the reader arranges them. -/
structure Arranged (parts : List Part) : Prop where
  ordered : Ordered parts
  plain : ∀ path cs, .field path cs ∈ parts → startsWithDollar path = false
  spoken : ∀ path cs, .field path cs ∈ parts → Spoken cs
  present : ∀ alternatives, .either alternatives ∈ parts → alternatives ≠ []

/-- The filter consists of parts as the reader arranges them, and so does every alternative. -/
inductive Readable : Filter → Prop
  | parts {parts : List Part} (arranged : Arranged parts)
    (readable : ∀ alternatives, .either alternatives ∈ parts → ∀ g ∈ alternatives, Readable g) :
    Readable (parts.flatMap Part.clauses)

section Read

variable (reads : List.Forall₂ Part.Reads members parts)

include reads

theorem names_of_reads : parts.map Part.name = members.map Prod.fst := by
  induction reads with
  | nil => rfl
  | cons first _ ih =>
    rw [List.map_cons, List.map_cons, ih]
    cases first <;> rfl

theorem ordered_of_reads (sorted : Members.Sorted members) : Ordered parts := by
  have names : (members.map Prod.fst).Pairwise Text.Before := List.pairwise_map.mpr sorted
  rw [← names_of_reads reads] at names
  exact List.pairwise_map.mp names

theorem arranged_of_reads (formed : members.Formed) : Arranged parts where
  ordered := ordered_of_reads reads formed.1
  plain path cs held := by
    obtain ⟨m, -, read⟩ := exists_of_mem_forall₂ reads held
    cases read
    assumption
  spoken path cs held := by
    obtain ⟨m, member, read⟩ := exists_of_mem_forall₂ reads held
    cases read with
    | field _ asked => exact spoken_of_readField (formed.2 _ member) asked
  present alternatives held := by
    obtain ⟨m, -, read⟩ := exists_of_mem_forall₂ reads held
    cases read with
    | either present each =>
      rintro rfl
      exact present (List.forall₂_nil_right_iff.mp each)

end Read

theorem readable_of_ofJson (formed : v.WellFormed) (read : ofJson v = .ok f) : Readable f := by
  -- Alternatives lie two levels below the filter that offers them, so the induction is on the depth.
  induction level : v.depth using Nat.strong_induction_on generalizing v f with
  | _ n ih =>
    subst level
    cases v with
    | object members =>
      obtain ⟨parts, reads, rfl⟩ := readMembers_eq_ok.mp read
      refine .parts (arranged_of_reads reads formed.members) fun alternatives held g offered => ?_
      obtain ⟨m, member, read⟩ := exists_of_mem_forall₂ reads held
      cases read with
      | @either values _ present each =>
        obtain ⟨w, inside, again⟩ := exists_of_mem_forall₂ each offered
        have formedItems := (Value.itemsWellFormed_iff values).mp (formed.members.2 _ member)
        have shallower : w.depth < (Value.object members).depth := by
          have items := Value.depth_le_of_mem inside
          have around := Value.membersDepth_le.mp (Nat.le_refl _) _ member
          simp only [Value.depth] at around ⊢
          omega
        exact ih w.depth shallower (formedItems w inside) again rfl
    | null | bool | number | text | array => cases read

section Written

variable (arranged : Arranged parts)

include arranged

theorem get?_of_part (held : part ∈ parts) {root : Members}
    (spelled : Spells (parts.flatMap Part.clauses) root) :
    Members.get? part.name root = some part.value := by
  cases part with
  | field path cs =>
    have spoken := arranged.spoken path cs held
    have path_ne : path ≠ "$or" := by
      rintro rfl
      exact absurd (arranged.plain _ cs held) (by decide)
    have asked := conditionsAt_field arranged.ordered held
    rw [Part.name, spelled, if_neg (fun both => path_ne both.1), get?_fieldOperators, asked,
      if_neg spoken.present, Members.ofList_of_sorted spoken.sorted]
    rfl
  | either alternatives =>
    have written : groupsJson (parts.flatMap Part.clauses) = alternatives.map toJson := by
      rw [groupsJson_eq, groups_either arranged.ordered held, List.flatMap_singleton]
    have some : alternatives.map toJson ≠ [] :=
      List.map_eq_nil_iff.not.mpr (arranged.present alternatives held)
    rw [Part.name, spelled, written, if_pos ⟨rfl, some⟩]
    rfl

theorem toJson_parts : toJson (parts.flatMap Part.clauses) =
    .object (parts.map fun part => (part.name, part.value)) := by
  obtain ⟨root, whole, sorted, spelled⟩ := toJson_eq (parts.flatMap Part.clauses)
  rw [whole]
  congr 1
  have sortedParts : Members.Sorted (parts.map fun part => (part.name, part.value)) :=
    List.pairwise_map.mpr arranged.ordered
  -- Both sides are sorted, so they are compared name by name, those of no part included.
  refine Members.eq_of_get? sorted sortedParts fun name => ?_
  by_cases named : ∃ part ∈ parts, part.name = name
  · obtain ⟨part, held, rfl⟩ := named
    have member : (part.name, part.value) ∈ parts.map fun part => (part.name, part.value) :=
      List.mem_map_of_mem held
    rw [Members.get?_of_mem sortedParts member]
    exact get?_of_part arranged held spelled
  · have absent : Members.get? name (parts.map fun part => (part.name, part.value)) = none := by
      apply Members.get?_eq_none
      intro m member
      obtain ⟨part, held, rfl⟩ := List.mem_map.mp member
      exact fun same => named ⟨part, held, same⟩
    have nothing : conditionsAt name (parts.flatMap Part.clauses) = [] := by
      by_contra asked
      obtain ⟨cs, held⟩ := field_of_conditionsAt asked
      exact named ⟨_, held, rfl⟩
    have noGroup : ¬ (name = "$or" ∧ groupsJson (parts.flatMap Part.clauses) ≠ []) := by
      rintro ⟨rfl, offered⟩
      rw [groupsJson_eq] at offered
      obtain ⟨v, inside⟩ := List.exists_mem_of_ne_nil _ offered
      obtain ⟨alternatives, group, -⟩ := List.mem_flatMap.mp inside
      exact named ⟨_, either_of_groups group, rfl⟩
    rw [absent, spelled, if_neg noGroup, get?_fieldOperators, if_pos nothing]
    rfl

end Written

/-! Reading again -/

theorem readMembers_parts (reads : ∀ part ∈ parts, Part.Reads (part.name, part.value) part) :
    readMembers (parts.map fun part => (part.name, part.value)) =
      .ok (parts.flatMap Part.clauses) :=
  readMembers_eq_ok.mpr
    ⟨parts, List.forall₂_map_left_iff.mpr (List.forall₂_same.mpr reads), rfl⟩

theorem Readable.ofJson_toJson (readable : Readable f) (plain : ¬ Disguised f) :
    ofJson (toJson f) = .ok f := by
  induction readable with
  | @parts parts arranged readable ih =>
    rw [toJson_parts arranged]
    refine readMembers_parts fun part held => ?_
    cases part with
    | field path cs =>
      have unveiled : ¬ Veiled cs := by
        intro veiled
        exact plain (.field (conditionsAt_field arranged.ordered held ▸ veiled))
      exact .field (arranged.plain path cs held)
        ((arranged.spoken path cs held).readField_collapse unveiled)
    | either alternatives =>
      have offered : alternatives ∈ groups (parts.flatMap Part.clauses) := by
        rw [groups_either arranged.ordered held]
        exact List.mem_singleton_self alternatives
      have again : ∀ g ∈ alternatives, ofJson (toJson g) = .ok g := fun g inside =>
        ih alternatives held g inside fun disguised => plain (.group offered inside disguised)
      exact .either (List.map_eq_nil_iff.not.mpr (arranged.present alternatives held))
        (List.forall₂_map_left_iff.mpr (List.forall₂_same.mpr again))

/-- Whatever a written filter is read as, it has a part for each of the filter's parts. -/
theorem parts_of_ofJson_toJson (arranged : Arranged parts)
    (read : ofJson (toJson (parts.flatMap Part.clauses)) = .ok g) :
    ∃ others, Ordered others ∧ g = others.flatMap Part.clauses ∧
      ∀ part ∈ parts, ∃ other ∈ others, Part.Reads (part.name, part.value) other := by
  rw [toJson_parts arranged] at read
  obtain ⟨others, reads, rfl⟩ := readMembers_eq_ok.mp read
  have sorted : Members.Sorted (parts.map fun part => (part.name, part.value)) :=
    List.pairwise_map.mpr arranged.ordered
  refine ⟨others, ordered_of_reads reads sorted, rfl, fun part held => ?_⟩
  exact exists_of_mem_forall₂ reads.flip (List.mem_map_of_mem held)

theorem Readable.not_same (readable : Readable f) (disguised : Disguised f)
    (read : ofJson (toJson f) = .ok g) : ¬ Same g f := by
  intro same
  -- By induction on the way to the literal: on each level the filter read again has a part of the
  -- same name, and what the two parts ask would have to be the same.
  induction disguised generalizing g with
  | @field f path veiled =>
    cases readable with
    | @parts parts arranged readable =>
      obtain ⟨others, ordered, rfl, partner⟩ := parts_of_ofJson_toJson arranged read
      have asked : conditionsAt path (parts.flatMap Part.clauses) ≠ [] := by
        intro none
        rw [none] at veiled
        cases veiled
      obtain ⟨cs, held⟩ := field_of_conditionsAt asked
      obtain ⟨other, inside, again⟩ := partner _ held
      obtain ⟨conditions, rfl, reread⟩ := again.of_field (arranged.plain path cs held)
      have alike := same.conditionsAt path
      rw [conditionsAt_field arranged.ordered held] at veiled alike
      rw [conditionsAt_field ordered inside] at alike
      exact veiled.not_same reread alike
  | @group f h alternatives offered held disguised ih =>
    cases readable with
    | @parts parts arranged readable =>
      obtain ⟨others, ordered, rfl, partner⟩ := parts_of_ofJson_toJson arranged read
      have group := either_of_groups offered
      obtain ⟨other, inside, again⟩ := partner _ group
      obtain ⟨anew, rfl, reread⟩ := again.of_group
      have alike := same.groups
      rw [groups_either arranged.ordered group, groups_either ordered inside] at alike
      obtain ⟨alike, -⟩ := List.forall₂_cons.mp alike
      -- Each alternative was read again, and what came out is the same as it was.
      have both : List.Forall₂ (fun k h => ofJson (toJson h) = .ok k ∧ Same k h) anew alternatives :=
        List.Forall₂.mp (fun _ _ read same => ⟨read, same⟩)
          (List.forall₂_map_left_iff.mp reread).flip alike
      obtain ⟨k, -, again, sameAgain⟩ := exists_of_mem_forall₂ both held
      exact ih (readable alternatives group h held) again sameAgain

/-- A filter that was read is written so that reading gives it again, except when some field's
literal is taken for operators; then reading fails or gives another filter. -/
theorem rendering_undoes_parsing (formed : v.WellFormed) (read : ofJson v = .ok f) :
    (¬ Disguised f → ofJson (toJson f) = .ok f) ∧
      ((∃ g, ofJson (toJson f) = .ok g ∧ Same g f) ↔ ¬ Disguised f) := by
  have readable := readable_of_ofJson formed read
  refine ⟨readable.ofJson_toJson, ?_, ?_⟩
  · rintro ⟨g, again, same⟩ disguised
    exact readable.not_same disguised again same
  · intro plain
    exact ⟨f, readable.ofJson_toJson plain, same_refl f⟩

end Limited

/-- Active listings of some span of time or with the given origin. -/
def spanOrOrigin (origin : Value) : Filter :=
  [.either [[.field "dates" (.gte (.text "2026-01-01")), .field "dates" (.lt (.text "2027-01-01"))],
    [.field "source" (.eq origin)]],
   .field "is_active" (.eq (.bool true))]

def spanOrOriginJson (origin : Value) : Value :=
  .object [("$or", .array
    [.object [("dates", .object [("$gte", .text "2026-01-01"), ("$lt", .text "2027-01-01")])],
     .object [("source", .object [("$eq", origin)])]]), ("is_active", .bool true)]

theorem ofJson_spanOrOrigin [Pattern.SizeLimit] (origin : Value) :
    ofJson (spanOrOriginJson origin) = .ok (spanOrOrigin origin) := by
  have span : readField (.object [("$gte", .text "2026-01-01"), ("$lt", .text "2027-01-01")]) =
      .ok [.gte (.text "2026-01-01"), .lt (.text "2027-01-01")] :=
    readField_operators (by decide)
  have lone : readField (.object [("$eq", origin)]) = .ok [.eq origin] :=
    (spoken_literal origin).readField_members
  have single : ∀ {name : String} {operand : Value} {cs : List Condition},
      startsWithDollar name = false → readField operand = .ok cs →
        ofJson (.object [(name, operand)]) = .ok (cs.map (.field name)) := fun plain read =>
    readMembers_eq_ok.mpr ⟨[.field _ _], .cons (.field plain read) .nil, (List.append_nil _).symm⟩
  refine readMembers_eq_ok.mpr ⟨[.either _, .field _ _], .cons ?_ (.cons (.field (by decide) rfl) .nil), rfl⟩
  exact .either (List.cons_ne_nil _ _)
    (.cons (single (by decide) span) (.cons (single (by decide) lone) .nil))

theorem spanOrOriginJson_formed {origin : Value} (formed : origin.WellFormed) :
    (spanOrOriginJson origin).WellFormed := by
  have outer : Text.Before "$or" "is_active" := by decide
  have inner : Text.Before "$gte" "$lt" := by decide
  have lone : ∀ {name : String} {v : Value}, v.WellFormed → (Value.object [(name, v)]).WellFormed :=
    fun formed => ⟨List.pairwise_singleton _ _, formed, trivial⟩
  have span : (Value.object [("$gte", .text "2026-01-01"), ("$lt", .text "2027-01-01")]).WellFormed :=
    ⟨List.pairwise_pair.mpr inner, trivial, trivial, trivial⟩
  exact ⟨List.pairwise_pair.mpr outer, ⟨lone span, lone (lone formed), trivial⟩, trivial, trivial⟩

theorem spanOrOrigin_plain (name text : String) (plain : startsWithDollar name = false) :
    ¬ Disguised (spanOrOrigin (.object [(name, .text text)])) := by
  intro disguised
  cases disguised with
  | field veiled =>
    obtain ⟨operators, -, held⟩ := veiled.literal_mem
    simp [spanOrOrigin] at held
  | group offered held disguised =>
    cases List.mem_singleton.mp offered
    rcases List.mem_pair.mp held with rfl | rfl
    · cases disguised with
      | field veiled =>
        obtain ⟨operators, -, held⟩ := veiled.literal_mem
        simp at held
      | group offered => cases offered
    · cases disguised with
      | field veiled =>
        obtain ⟨operators, spells, held⟩ := veiled.literal_mem
        cases List.mem_singleton.mp held
        simp [spellsOperators, plain] at spells
      | group offered => cases offered

attribute [local instance] Pattern.SizeLimit.unlimited

theorem rendering_undoes_parsing_origin :
    ofJson (toJson (spanOrOrigin (.object [("platform", .text "MLH")]))) =
        .ok (spanOrOrigin (.object [("platform", .text "MLH")])) ∧
      ¬ ∃ g, ofJson (toJson (spanOrOrigin (.object [("$in", .array [])]))) = .ok g ∧
        Same g (spanOrOrigin (.object [("$in", .array [])])) := by
  constructor
  · have formed : (Value.object [("platform", .text "MLH")]).WellFormed :=
      ⟨List.pairwise_singleton _ _, trivial, trivial⟩
    exact (rendering_undoes_parsing (spanOrOriginJson_formed formed) (ofJson_spanOrOrigin _)).1
      (spanOrOrigin_plain "platform" "MLH" (by decide))
  · have formed : (Value.object [("$in", .array [])]).WellFormed :=
      ⟨List.pairwise_singleton _ _, trivial, trivial⟩
    rw [(rendering_undoes_parsing (spanOrOriginJson_formed formed) (ofJson_spanOrOrigin _)).2, not_not]
    have veiled : Disguised [.field "source" (.eq (.object [("$in", .array [])]))] :=
      @Disguised.field _ "source" (.literal (by decide))
    exact .group List.mem_cons_self (List.mem_cons_of_mem _ List.mem_cons_self) veiled

end Filter

end Catalog.Query
