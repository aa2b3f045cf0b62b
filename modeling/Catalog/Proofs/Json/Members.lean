import Mathlib.Data.List.Sort
import Catalog.Json.Value

/-!
Members of objects. Setting a member brings in no other name and keeps the names in their order,
so objects built member by member are sorted.
-/
namespace Catalog.Json.Members

variable {name : String} {value : Value} {members others : Members}

theorem mem_insert {m : String × Value} (member : m ∈ insert name value members) :
    m = (name, value) ∨ m ∈ members := by
  induction members with
  | nil => exact .inl (List.mem_singleton.mp member)
  | cons first rest ih =>
    obtain ⟨n, v⟩ := first
    simp only [insert] at member
    split at member
    · rcases List.mem_cons.mp member with here | later
      · exact .inl here
      · exact .inr (List.mem_cons_of_mem _ later)
    · split at member
      · exact List.mem_cons.mp member
      · rcases List.mem_cons.mp member with here | later
        · exact .inr (here ▸ List.mem_cons_self)
        · rcases ih later with new | old
          · exact .inl new
          · exact .inr (List.mem_cons_of_mem _ old)

theorem mem_of_get? (found : get? name members = some value) : (name, value) ∈ members := by
  induction members with
  | nil => cases found
  | cons first rest ih =>
    obtain ⟨n, v⟩ := first
    simp only [get?] at found
    split at found
    · rename_i same
      rw [eq_of_beq same, Option.some.inj found]
      exact List.mem_cons_self
    · exact List.mem_cons_of_mem _ (ih found)

theorem get?_of_mem (sorted : Sorted members) (member : (name, value) ∈ members) :
    get? name members = some value := by
  induction members with
  | nil => cases member
  | cons first rest ih =>
    obtain ⟨above, sortedRest⟩ := List.pairwise_cons.mp sorted
    rcases List.mem_cons.mp member with here | later
    · simp [← here, get?]
    · have before : Text.Before first.1 name := above (name, value) later
      have differ : first.1 ≠ name := fun same => Text.not_before_self name (same ▸ before)
      simp [get?, differ, ih sortedRest later]

theorem eq_of_mem_iff (sorted : Sorted members) (sortedOthers : Sorted others)
    (same : ∀ m, m ∈ members ↔ m ∈ others) : members = others := by
  have irrefl : Std.Irrefl fun a b : String × Value => Text.Before a.1 b.1 :=
    ⟨fun a => Text.not_before_self a.1⟩
  have antisymm : Std.Antisymm fun a b : String × Value => Text.Before a.1 b.1 :=
    ⟨fun a _ first second => absurd (first.trans second) (Text.not_before_self a.1)⟩
  exact List.Pairwise.eq_of_mem_iff sorted sortedOthers same

theorem eq_of_get? (sorted : Sorted members) (sortedOthers : Sorted others)
    (same : ∀ name, get? name members = get? name others) : members = others := by
  refine eq_of_mem_iff sorted sortedOthers fun (name, value) => ?_
  constructor
  · intro member
    exact mem_of_get? ((same name).symm.trans (get?_of_mem sorted member))
  · intro member
    exact mem_of_get? ((same name).trans (get?_of_mem sortedOthers member))

theorem get?_eq_none (absent : ∀ m ∈ members, m.1 ≠ name) : get? name members = none := by
  induction members with
  | nil => rfl
  | cons first rest ih =>
    obtain ⟨differ, later⟩ := List.forall_mem_cons.mp absent
    simp [get?, differ, ih later]

theorem get?_map (f : Value → Value) (name : String) (members : Members) :
    get? name (members.map fun (n, v) => (n, f v)) = (get? name members).map f := by
  induction members with
  | nil => rfl
  | cons first rest ih =>
    obtain ⟨n, v⟩ := first
    by_cases same : n = name <;> simp [get?, same, ih]

theorem sorted_map (f : Value → Value) (sorted : Sorted members) :
    Sorted (members.map fun (n, v) => (n, f v)) :=
  List.pairwise_map.mpr sorted

theorem get?_append (name : String) (front back : Members) :
    get? name (front ++ back) = (get? name front).or (get? name back) := by
  induction front with
  | nil => rfl
  | cons first rest ih =>
    obtain ⟨n, v⟩ := first
    simp only [List.cons_append, get?, ih]
    split <;> rfl

theorem sorted_insert (sorted : Sorted members) : Sorted (insert name value members) := by
  induction members with
  | nil => exact List.pairwise_singleton _ _
  | cons first rest ih =>
    obtain ⟨n, v⟩ := first
    obtain ⟨above, sortedRest⟩ := List.pairwise_cons.mp sorted
    simp only [insert]
    split
    · rename_i same
      have same : n = name := by simpa using same
      subst same
      exact List.pairwise_cons.mpr ⟨above, sortedRest⟩
    · rename_i differ
      split
      · rename_i before
        refine List.pairwise_cons.mpr ⟨fun m member => ?_, sorted⟩
        rcases List.mem_cons.mp member with here | later
        · exact here ▸ before
        · exact before.trans (above m later)
      · rename_i after
        have before : Text.Before n name := Text.before_of_not_before after (by simpa using differ)
        refine List.pairwise_cons.mpr ⟨fun m member => ?_, ih sortedRest⟩
        rcases mem_insert member with new | old
        · exact new ▸ before
        · exact above m old

theorem insert_last (above : ∀ m ∈ members, Text.Before m.1 name) :
    insert name value members = members ++ [(name, value)] := by
  induction members with
  | nil => rfl
  | cons m members ih =>
    obtain ⟨n, v⟩ := m
    have before : Text.Before n name := above (n, v) List.mem_cons_self
    have differ : ¬ n = name := fun same => Text.not_before_self name (same ▸ before)
    have after : ¬ Text.Before name n := fun turned => Text.not_before_self n (before.trans turned)
    have rest := ih fun m member => above m (List.mem_cons_of_mem _ member)
    simp [insert, differ, after, rest]

theorem foldl_insert_induction {motive : Members → Prop} (pairs : List (String × Value))
    (start : Members) (base : motive start)
    (step : ∀ members, ∀ m ∈ pairs, motive members → motive (insert m.1 m.2 members)) :
    motive (pairs.foldl (fun members (name, value) => insert name value members) start) := by
  induction pairs generalizing start with
  | nil => exact base
  | cons m pairs ih =>
    exact ih _ (step start m List.mem_cons_self base)
      fun members m' member => step members m' (List.mem_cons_of_mem _ member)

theorem get?_foldl_insert (name : String) (pairs : List (String × Value)) (start : Members) :
    get? name (pairs.foldl (fun members (name, value) => insert name value members) start) =
      (get? name pairs.reverse).or (get? name start) := by
  induction pairs generalizing start with
  | nil => rfl
  | cons m pairs ih =>
    obtain ⟨n, v⟩ := m
    rw [List.foldl_cons, ih, List.reverse_cons, get?_append, Option.or_assoc]
    by_cases same : n = name
    · simp [same, get?, get?_insert_self]
    · simp [get?, same, get?_insert_of_ne (Ne.symm same)]

/-- Of several members with one name the last one stands. -/
theorem get?_ofList (name : String) (pairs : List (String × Value)) :
    get? name (ofList pairs) = get? name pairs.reverse := by
  rw [ofList, get?_foldl_insert, get?, Option.or_none]

theorem sorted_ofList (pairs : List (String × Value)) : Sorted (ofList pairs) :=
  foldl_insert_induction pairs [] List.Pairwise.nil fun _ _ _ sorted => sorted_insert sorted

theorem foldl_insert_of_sorted {front back : Members} (sorted : Sorted (front ++ back)) :
    back.foldl (fun members (name, value) => insert name value members) front = front ++ back := by
  induction back generalizing front with
  | nil => exact (List.append_nil front).symm
  | cons m back ih =>
    obtain ⟨name, value⟩ := m
    obtain ⟨-, -, across⟩ := List.pairwise_append.mp sorted
    have last : insert name value front = front ++ [(name, value)] :=
      insert_last fun m member => across m member (name, value) List.mem_cons_self
    rw [List.append_cons] at sorted
    simp only [List.foldl_cons, last, ih sorted, List.append_assoc, List.singleton_append]

theorem ofList_of_sorted (sorted : Sorted members) : ofList members = members :=
  @foldl_insert_of_sorted [] members sorted

theorem insert_perm (value : Value) (new : name ∉ members.names) :
    (insert name value members).Perm ((name, value) :: members) := by
  induction members with
  | nil => exact .refl _
  | cons first rest ih =>
    obtain ⟨n, v⟩ := first
    simp only [names, List.map_cons, List.mem_cons, not_or] at new
    have other : ¬ n = name := fun same => new.1 same.symm
    simp only [insert, beq_iff_eq, other, if_false]
    split
    · exact .refl _
    · exact ((ih new.2).cons _).trans (.swap _ _ _)

theorem foldl_insert_perm (pairs : List (String × Value)) {start : Members}
    (distinct : (names (start ++ pairs)).Nodup) :
    (pairs.foldl (fun members (name, value) => insert name value members) start).Perm
      (start ++ pairs) := by
  induction pairs generalizing start with
  | nil => rw [List.append_nil]; exact .refl _
  | cons m pairs ih =>
    obtain ⟨n, v⟩ := m
    have moved : (start ++ (n, v) :: pairs).Perm ((n, v) :: start ++ pairs) := List.perm_middle
    have apart : (names ((n, v) :: start ++ pairs)).Nodup :=
      (moved.map Prod.fst).nodup_iff.mp distinct
    have new : n ∉ names start := by
      intro member
      obtain ⟨m, held, same⟩ := List.mem_map.mp member
      exact (List.nodup_cons.mp apart).1
        (List.mem_map.mpr ⟨m, List.mem_append_left pairs held, same⟩)
    have placed := (insert_perm v new).append_right pairs
    exact (ih ((placed.map Prod.fst).nodup_iff.mpr apart)).trans (placed.trans moved.symm)

/-- Where no name occurs twice, nothing is replaced. -/
theorem ofList_perm {pairs : List (String × Value)} (distinct : (names pairs).Nodup) :
    (ofList pairs).Perm pairs :=
  @foldl_insert_perm pairs [] distinct

theorem mem_ofList {pairs : List (String × Value)} {m : String × Value}
    (member : m ∈ ofList pairs) : m ∈ pairs := by
  have only : ∀ m ∈ ofList pairs, m ∈ pairs :=
    foldl_insert_induction (motive := fun members => ∀ m ∈ members, m ∈ pairs) pairs []
      (fun _ none => nomatch none) fun members new source earlier m member => by
        rcases mem_insert member with same | old
        · exact same ▸ source
        · exact earlier m old
  exact only m member

end Catalog.Json.Members
