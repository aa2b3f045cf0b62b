import Mathlib.Data.List.Lex
import Catalog.Proofs.Document.Fields

/-!
Patches as assignments. After a patch every path of it that no longer path of it continues leads to
its value, paths that part from all of its paths lead where they led, and a second time changes
nothing. The names of a patch ascend, so a path is set before those that continue it.
-/
namespace Catalog

open Json

/-! Paths and their names -/

namespace Text

theorem before_append {a b : String} {c : Char} {more : List Char}
    (longer : b.toList = a.toList ++ c :: more) : Before a b := by
  show a.toList < b.toList
  rw [longer]
  induction a.toList with
  | nil => exact List.nil_lt_cons _ _
  | cons d ds ih => exact List.cons_lt_cons_iff.mpr (.inr ⟨rfl, ih⟩)

end Text

variable {a b path : String}

theorem toList_of_segments (path : String) :
    path.toList = ['.'].intercalate ((segments path).map String.toList) := by
  have parts : (segments path).map String.toList = Text.splitAt '.' path.toList := by
    simp [segments, Text.splitText, Function.comp_def]
  rw [parts, Text.intercalate_splitAt]

theorem segments_injective (same : segments a = segments b) : a = b := by
  apply String.toList_injective
  rw [toList_of_segments a, toList_of_segments b, same]

theorem segments_of_mem {name : String} (member : name ∈ segments path) :
    segments name = [name] := by
  obtain ⟨part, piece, rfl⟩ := List.mem_map.mp member
  simp [segments, Text.splitText, Text.splitAt_of_not_mem (Text.not_mem_of_mem_splitAt piece)]

theorem before_of_leads (leads : segments a <+: segments b) (differ : a ≠ b) :
    Text.Before a b := by
  obtain ⟨rest, continued⟩ := leads
  have more : rest ≠ [] := by
    rintro rfl
    exact differ (segments_injective (by simpa using continued))
  have longer : b.toList = a.toList ++ '.' :: ['.'].intercalate (rest.map String.toList) := by
    rw [toList_of_segments b, ← continued, List.map_append, Text.intercalate_append,
      ← toList_of_segments]
    · simpa using segments_ne_nil a
    · simpa using more
  exact Text.before_append longer

namespace Json.Members

variable {name other : String} {v w : Value} {members : Members}

theorem insert_insert (name : String) (v w : Value) (members : Members) :
    insert name v (insert name w members) = insert name v members := by
  induction members with
  | nil => simp [insert]
  | cons m members ih =>
    obtain ⟨n, u⟩ := m
    by_cases same : n = name
    · simp [insert, same]
    · by_cases before : Text.Before name n <;> simp [insert, same, before, ih]

/-- The lesser of two names may be set first or last. -/
theorem insert_comm_of_before (before : Text.Before name other) (v w : Value) (members : Members) :
    insert name v (insert other w members) = insert other w (insert name v members) := by
  have differ : name ≠ other := fun same => Text.not_before_self other (same ▸ before)
  have after : ¬ Text.Before other name := fun back => Text.not_before_self name (before.trans back)
  induction members with
  | nil => simp [insert, differ, differ.symm, before, after]
  | cons m members ih =>
    obtain ⟨n, u⟩ := m
    by_cases first : n = name
    · subst first
      simp [insert, differ, after]
    by_cases second : n = other
    · subst second
      simp [insert, differ, differ.symm, before, after]
    by_cases beforeOther : Text.Before other n
    · have beforeName := before.trans beforeOther
      simp [insert, first, second, differ, differ.symm, before, after, beforeOther, beforeName]
    by_cases beforeName : Text.Before name n
    · simp [insert, first, second, differ, after, beforeOther, beforeName]
    · simp [insert, first, second, beforeOther, beforeName, ih]

theorem insert_comm (differ : name ≠ other) (v w : Value) (members : Members) :
    insert name v (insert other w members) = insert other w (insert name v members) := by
  by_cases before : Text.Before name other
  · exact insert_comm_of_before before v w members
  · exact (insert_comm_of_before (Text.before_of_not_before before differ.symm) w v members).symm

end Json.Members

namespace Document

variable {doc value other : Value} {names others : List String} {patch : Members}

theorem diverge_symm (parting : Diverge names others) : Diverge others names := by
  induction names generalizing others with
  | nil => exact parting.elim
  | cons first rest ih =>
    cases others with
    | nil => exact parting.elim
    | cons => exact parting.imp Ne.symm ih

theorem diverge_of_apart (short : ¬ names <+: others) (long : ¬ others <+: names) :
    Diverge names others := by
  induction names generalizing others with
  | nil => exact absurd List.nil_prefix short
  | cons first rest ih =>
    cases others with
    | nil => exact absurd List.nil_prefix long
    | cons other others =>
      by_cases same : first = other
      · subst same
        rw [List.prefix_cons_inj] at short long
        exact .inr (ih short long)
      · exact .inl same

theorem put_put_of_leads (leads : names <+: others) :
    put value (put other doc others) names = put value doc names := by
  obtain ⟨rest, rfl⟩ := leads
  induction names generalizing doc with
  | nil => rfl
  | cons first names ih =>
    simp only [List.cons_append, put, membersOf, Members.insert_insert, Members.get?_insert_self,
      Option.getD_some, ih]

theorem put_comm (parting : Diverge names others) :
    put value (put other doc others) names = put other (put value doc names) others := by
  induction names generalizing doc others with
  | nil => exact parting.elim
  | cons first rest ih =>
    cases others with
    | nil => exact parting.elim
    | cons second others =>
      by_cases same : first = second
      · subst same
        have later : Diverge rest others := parting.resolve_left fun ne => ne rfl
        simp only [put, membersOf, Members.insert_insert, Members.get?_insert_self,
          Option.getD_some, ih later]
      · have different : second ≠ first := Ne.symm same
        simp only [put, membersOf, Members.get?_insert_of_ne same,
          Members.get?_insert_of_ne different]
        rw [Members.insert_comm same]

/-! One assignment after the other -/

/-- A value for a path. -/
abbrev Assignment := List String × Value

def putAll (assignments : List Assignment) (doc : Value) : Value :=
  assignments.foldl (fun doc a => put a.2 doc a.1) doc

/-- No path is continued by one that was set before it, and none is set twice. -/
def InTurn (assignments : List Assignment) : Prop :=
  assignments.Pairwise fun a b => ¬ b.1 <+: a.1

variable {assignments chosen : List Assignment}

/-- An assignment made last might as well be made first; what would have been set further on along
its path is lost. -/
theorem put_putAll (ahead : ∀ a ∈ assignments, ¬ a.1 <+: names) :
    put value (putAll assignments doc) names =
      putAll (assignments.filter fun a => ¬ names <+: a.1) (put value doc names) := by
  induction assignments generalizing doc with
  | nil => rfl
  | cons a assignments ih =>
    obtain ⟨short, later⟩ := List.forall_mem_cons.mp ahead
    rw [show putAll (a :: assignments) doc = putAll assignments (put a.2 doc a.1) from rfl,
      ih later]
    by_cases long : names <+: a.1
    · simp [long, put_put_of_leads long]
    · have parting := diverge_of_apart long short
      simp only [long, not_false_eq_true, decide_true, List.filter_cons_of_pos, put_comm parting]
      rfl

/-- Some of the assignments leave nothing behind when all of them follow. -/
theorem putAll_putAll (inTurn : InTurn assignments) (some : chosen.Sublist assignments) :
    putAll assignments (putAll chosen doc) = putAll assignments doc := by
  induction assignments generalizing chosen doc with
  | nil =>
    rw [List.sublist_nil.mp some]
    rfl
  | cons a assignments ih =>
    obtain ⟨ahead, rest⟩ := List.pairwise_cons.mp inTurn
    have settled : ∀ {others : List Assignment} (doc : Value), others.Sublist assignments →
        putAll (a :: assignments) (putAll others doc) = putAll (a :: assignments) doc := by
      intro others doc part
      show putAll assignments (put a.2 (putAll others doc) a.1) =
        putAll assignments (put a.2 doc a.1)
      rw [put_putAll fun b member => ahead b (part.subset member)]
      exact ih rest (List.filter_sublist.trans part)
    rcases List.sublist_cons_iff.mp some with part | ⟨others, rfl, part⟩
    · exact settled doc part
    · show putAll (a :: assignments) (putAll others (put a.2 doc a.1)) = _
      rw [settled _ part]
      show putAll assignments (put a.2 (put a.2 doc a.1) a.1) = _
      rw [put_put_of_leads (List.prefix_refl _)]
      rfl

/-! Patches -/

/-- What a patch assigns. -/
def assigned (patch : Members) : List Assignment :=
  (patch.filter fun m => !Field.fixed m.1).map fun m => (segments m.1, m.2)

theorem merge_eq_putAll (doc : Value) (patch : Members) :
    merge doc patch = putAll (assigned patch) doc := by
  induction patch generalizing doc with
  | nil => rfl
  | cons m patch ih =>
    rw [merge_cons, ih]
    by_cases fixed : Field.fixed m.1 = true <;> simp [assigned, putAll, set, fixed]

theorem not_leads_of_before (before : Text.Before a b) : ¬ segments b <+: segments a := by
  intro leads
  have differ : b ≠ a := fun same => Text.not_before_self a (same ▸ before)
  exact Text.not_before_self a (before.trans (before_of_leads leads differ))

theorem inTurn_assigned (sorted : patch.Sorted) : InTurn (assigned patch) := by
  refine List.pairwise_map.mpr (List.Pairwise.imp ?_ (List.Pairwise.filter _ sorted))
  exact fun before => not_leads_of_before before

theorem merge_merge (doc : Value) (sorted : patch.Sorted) :
    merge (merge doc patch) patch = merge doc patch := by
  simp only [merge_eq_putAll]
  exact putAll_putAll (inTurn_assigned sorted) (List.Sublist.refl _)

/-- A path of a patch leads to its value unless another one of the patch continues it. -/
theorem resolve_merge (sorted : patch.Sorted) (free : Field.fixed path = false)
    (member : Members.get? path patch = some value)
    (last : ∀ m ∈ patch, segments path <+: segments m.1 → m.1 = path) :
    resolve (merge doc patch) path = some value := by
  induction patch generalizing doc with
  | nil => cases member
  | cons m patch ih =>
    obtain ⟨n, v⟩ := m
    obtain ⟨above, sortedRest⟩ := List.pairwise_cons.mp sorted
    have lastRest := fun m member => last m (List.mem_cons_of_mem _ member)
    rw [merge_cons]
    by_cases same : n = path
    · subst same
      have found : v = value := by simpa [Members.get?] using member
      subst found
      simp only [free, Bool.false_eq_true, if_false]
      refine (select_merge_of_diverge fun m member => .inr ?_).trans resolve_set_self
      have differ : m.1 ≠ n := fun same => Text.not_before_self n (same ▸ above m member)
      exact diverge_of_apart (not_leads_of_before (above m member))
        fun leads => differ (lastRest m member leads)
    · refine ih sortedRest ?_ lastRest
      simpa [Members.get?, same] using member

/-- A patch sets its paths, leaves alone what parts from them, and has nothing to do the second
time. -/
theorem patch_assigns (doc : Value) (patch : Members) (sorted : patch.Sorted) :
    ∃ patched, patch? doc (.object patch) = some patched ∧
      (∀ path value, Members.get? path patch = some value → Field.fixed path = false →
        (∀ m ∈ patch, ¬ (segments path <+: segments m.1 ∧ segments path ≠ segments m.1)) →
        resolve patched path = some value) ∧
      (∀ path, (∀ m ∈ patch, Field.fixed m.1 = false →
          ¬ segments m.1 <+: segments path ∧ ¬ segments path <+: segments m.1) →
        resolve patched path = resolve doc path) ∧
      patch? patched (.object patch) = some patched := by
  refine ⟨merge doc patch, rfl, ?_, ?_, congrArg some (merge_merge doc sorted)⟩
  · intro path value member free last
    refine resolve_merge sorted free member fun m held leads => ?_
    by_contra differ
    exact last m held ⟨leads, fun same => differ (segments_injective same.symm)⟩
  · intro path apart
    refine select_merge_of_diverge fun m held => ?_
    cases free : Field.fixed m.1 with
    | true => exact .inl rfl
    | false =>
      obtain ⟨short, long⟩ := apart m held free
      exact .inr (diverge_of_apart short long)

/-- A patch whose paths overlap, run through a text and name the identity. -/
def overlapping : Members :=
  [("a", .text "x"), ("a.b", .ofNat 1), ("c..d", .null), ("id", .text "other")]

theorem patch_assigns_overlapping :
    overlapping.Sorted ∧
      ∃ patched, patch? (.object [("c", .text "in the way"), ("id", .text "own")])
          (.object overlapping) = some patched ∧
        resolve patched "a.b" = some (.ofNat 1) ∧ resolve patched "c..d" = some .null ∧
        resolve patched "id" = some (.text "own") ∧
        patch? patched (.object overlapping) = some patched := by
  have sorted : overlapping.Sorted := by decide +kernel
  obtain ⟨patched, done, sets, keeps, again⟩ :=
    patch_assigns (.object [("c", .text "in the way"), ("id", .text "own")]) overlapping sorted
  refine ⟨sorted, patched, done, sets _ _ rfl (by decide +kernel) (by decide +kernel),
    sets _ _ rfl (by decide +kernel) (by decide +kernel), ?_, again⟩
  exact (keeps "id" (by decide +kernel)).trans rfl

end Document

end Catalog
