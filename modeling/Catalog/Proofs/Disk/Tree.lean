import Mathlib.Data.List.Basic
import Catalog.Disk.Tree
import Catalog.Proofs.Lists

/-!
Files put on a disk. What stands at a path is decided by the entries at and below it and by the
files on the way, so a new file is seen at its own path and in the directories above it, and
nowhere else.
-/
namespace Catalog.Disk.Tree

variable {tree : Tree} {path file rest : List String} {name text : String}
  {held : Option String}

theorem below?_nil (path : List String) : below? [] path = some path := rfl

theorem below?_short (d : String) (dir : List String) : below? (d :: dir) [] = none := rfl

theorem below?_cons (d p : String) (dir path : List String) :
    below? (d :: dir) (p :: path) = if d == p then below? dir path else none := rfl

theorem below?_eq_some {dir : List String} : below? dir path = some rest ↔ path = dir ++ rest := by
  induction dir generalizing path with
  | nil => simp [below?_nil]
  | cons d dir ih =>
    cases path with
    | nil => simp [below?_short]
    | cons p path =>
      by_cases same : d = p
      · simp [below?_cons, same, ih]
      · simp [below?_cons, same, Ne.symm same]

theorem below?_eq_none {dir : List String} (apart : ¬ dir <+: path) : below? dir path = none := by
  cases found : below? dir path with
  | none => rfl
  | some rest => exact absurd ⟨rest, (below?_eq_some.mp found).symm⟩ apart

theorem mem_under : (rest, held) ∈ tree.under path ↔ (path ++ rest, held) ∈ tree := by
  rw [under, List.mem_filterMap]
  constructor
  · rintro ⟨⟨p, h⟩, member, found⟩
    obtain ⟨r, below, same⟩ := Option.map_eq_some_iff.mp found
    cases same
    rwa [← below?_eq_some.mp below]
  · intro member
    refine ⟨_, member, ?_⟩
    simp only [below?_eq_some.mpr rfl, Option.map_some]

/-! Names in a directory -/

theorem mem_children :
    name ∈ tree.children path ↔ ∃ rest held, (path ++ name :: rest, held) ∈ tree := by
  rw [children, List.mem_eraseDups, List.mem_filterMap]
  constructor
  · rintro ⟨⟨_ | ⟨first, rest⟩, held⟩, member, head⟩
    · cases head
    · cases head
      exact ⟨rest, held, mem_under.mp member⟩
  · rintro ⟨rest, held, member⟩
    exact ⟨(name :: rest, held), mem_under.mpr member, rfl⟩

theorem nodup_children (tree : Tree) (path : List String) : (tree.children path).Nodup :=
  eraseDups_nodup _

/-! What stands at a path -/

/-- What the first entry at a path itself holds. -/
def standing? (tree : Tree) (path : List String) : Option (Option String) :=
  tree.findSome? fun (p, held) => if p == path then some held else none

theorem mem_of_standing? (found : tree.standing? path = some held) : (path, held) ∈ tree := by
  obtain ⟨⟨p, h⟩, member, here⟩ := List.exists_of_findSome?_eq_some found
  obtain ⟨same, kept⟩ := Option.ite_none_right_eq_some.mp here
  rw [← eq_of_beq same, ← Option.some.inj kept]
  exact member

theorem findSome?_under (tree : Tree) (path : List String) :
    ((tree.under path).findSome? fun (rest, held) => if rest.isEmpty then some held else none) =
      tree.standing? path := by
  rw [← List.head?_filterMap, under, List.filterMap_filterMap, List.head?_filterMap]
  refine congrArg (tree.findSome? ·) (funext fun ⟨p, held⟩ => ?_)
  by_cases below : path <+: p
  · obtain ⟨rest, rfl⟩ := below
    have found : below? path (path ++ rest) = some rest := below?_eq_some.mpr rfl
    simp only [found]
    cases rest <;> simp
  · have other : ¬ p = path := fun same => below (same ▸ List.prefix_rfl)
    simp [below?_eq_none below, other]

theorem at?_eq (tree : Tree) (path : List String) : tree.at? path =
    match tree.standing? path with
    | some (some text) => .text text
    | some none => .directory
    | none =>
      if tree.isBlocked path then .blocked
      else if (tree.under path).isEmpty && !path.isEmpty then .missing
      else .directory := by
  rw [← findSome?_under]
  rfl

theorem mem_of_at?_text (found : tree.at? path = .text text) : (path, some text) ∈ tree := by
  rw [at?_eq] at found
  split at found
  · rename_i held here
    cases found
    exact mem_of_standing? here
  · cases found
  · split at found
    · cases found
    · split at found <;> cases found

/-- Nothing stands at or below a missing path, nor a file on the way to it. -/
theorem of_at?_missing (missing : tree.at? path = .missing) :
    tree.under path = [] ∧ tree.isBlocked path = false := by
  rw [at?_eq] at missing
  split at missing
  · cases missing
  · cases missing
  · split at missing
    · cases missing
    · rename_i free
      split at missing
      · rename_i empty
        rw [Bool.and_eq_true, List.isEmpty_iff] at empty
        exact ⟨empty.1, Bool.eq_false_iff.mpr free⟩
      · cases missing

theorem isBlocked_iff : tree.isBlocked path = true ↔
    ∃ p text rest, (p, some text) ∈ tree ∧ path = p ++ rest ∧ rest ≠ [] := by
  rw [isBlocked, List.any_eq_true]
  constructor
  · rintro ⟨⟨p, held⟩, member, blocks⟩
    obtain ⟨isFile, below⟩ := Bool.and_eq_true_iff.mp blocks
    obtain ⟨text, rfl⟩ := Option.isSome_iff_exists.mp isFile
    obtain ⟨rest, found, more⟩ := (Option.any_eq_true _ _).mp below
    exact ⟨p, text, rest, member, below?_eq_some.mp found, by simpa using more⟩
  · rintro ⟨p, text, rest, member, rfl, more⟩
    exact ⟨_, member, by simp [below?_eq_some.mpr rfl, more]⟩

theorem not_isBlocked_of_missing (missing : tree.at? path = .missing) (name : String) :
    tree.isBlocked (path ++ [name]) = false := by
  obtain ⟨empty, free⟩ := of_at?_missing missing
  refine Bool.eq_false_iff.mpr fun blocked => ?_
  obtain ⟨p, text, rest, member, below, more⟩ := isBlocked_iff.mp blocked
  obtain ⟨front, last, rfl⟩ := (List.eq_nil_or_concat rest).resolve_left more
  rw [List.concat_eq_append, ← List.append_assoc] at below
  have same : path = p ++ front := List.append_inj_left' below rfl
  cases front with
  | nil =>
    have here : ([], some text) ∈ tree.under path :=
      mem_under.mpr (by rwa [same, List.append_nil, List.append_nil])
    rw [empty] at here
    cases here
  | cons first front =>
    exact Bool.eq_false_iff.mp free
      (isBlocked_iff.mpr ⟨p, text, _, member, same, List.cons_ne_nil first front⟩)

/-! Writing a file -/

theorem write_eq (free : tree.isBlocked file = false) (text : String) :
    tree.write file text = tree.filter (fun e => e.1 != file) ++ [(file, some text)] := by
  rw [write, if_neg (Bool.eq_false_iff.mp free)]

theorem under_write (apart : ¬ path <+: file) (text : String) :
    (tree.write file text).under path = tree.under path := by
  cases free : tree.isBlocked file with
  | true => rw [write, if_pos free]
  | false =>
    rw [write_eq free, under, List.filterMap_append, List.filterMap_filter]
    have none_new : below? path file = none := below?_eq_none apart
    simp only [List.filterMap_cons, none_new, Option.map_none, List.filterMap_nil, List.append_nil]
    refine List.filterMap_congr fun e _ => ?_
    by_cases same : e.1 = file
    · simp [same, none_new]
    · simp [same]

theorem isBlocked_write (apart : ¬ file <+: path) (text : String) :
    (tree.write file text).isBlocked path = tree.isBlocked path := by
  cases free : tree.isBlocked file with
  | true => rw [write, if_pos free]
  | false =>
    have none_new : below? file path = none := below?_eq_none apart
    rw [write_eq free, isBlocked, List.any_append, List.any_filter]
    simp only [List.any_cons, none_new, Option.any_none, Bool.and_false, List.any_nil,
      Bool.or_false]
    refine List.any_congr rfl fun e => ?_
    by_cases same : e.1 = file
    · simp [same, none_new]
    · simp [same]

/-- Paths that are not one above the other do not see each other's files. -/
theorem at?_write_of_apart (above : ¬ path <+: file) (below : ¬ file <+: path) (text : String) :
    (tree.write file text).at? path = tree.at? path := by
  rw [at?, at?, under_write above, isBlocked_write below]

theorem standing?_filter (differ : path ≠ file) :
    standing? (tree.filter fun e => e.1 != file) path = tree.standing? path := by
  induction tree with
  | nil => rfl
  | cons e tree ih =>
    by_cases same : e.1 = file
    · simpa [standing?, same, Ne.symm differ] using ih
    · by_cases here : e.1 = path
      · simp [standing?, here, differ]
      · simpa [standing?, same, here] using ih

theorem standing?_filter_self : standing? (tree.filter fun e => e.1 != file) file = none := by
  rw [standing?, List.findSome?_eq_none_iff]
  intro e member
  have differ := (List.mem_filter.mp member).2
  exact if_neg (by simpa using differ)

theorem standing?_write_self (free : tree.isBlocked file = false) (text : String) :
    (tree.write file text).standing? file = some (some text) := by
  have none_old : standing? (tree.filter fun e => e.1 != file) file = none := standing?_filter_self
  rw [standing?] at none_old
  rw [write_eq free, standing?, List.findSome?_append, none_old]
  simp

theorem standing?_write (free : tree.isBlocked file = false) (differ : path ≠ file) (text : String) :
    (tree.write file text).standing? path = tree.standing? path := by
  have old : standing? (tree.filter fun e => e.1 != file) path = tree.standing? path :=
    standing?_filter differ
  rw [standing?] at old
  rw [write_eq free, standing?, List.findSome?_append, old]
  simp [Ne.symm differ]

/-- A file stands at its path, in the place of what was there. -/
theorem at?_write_self (free : tree.isBlocked file = false) (text : String) :
    (tree.write file text).at? file = .text text := by
  rw [at?_eq, standing?_write_self free]

theorem at?_write_above (free : tree.isBlocked file = false) (above : path <+: file)
    (differ : path ≠ file) (text : String)
    (room : tree.at? path = .directory ∨ tree.at? path = .missing) :
    (tree.write file text).at? path = .directory := by
  have below : ¬ file <+: path := fun longer =>
    differ (above.eq_of_length (Nat.le_antisymm above.length_le longer.length_le))
  obtain ⟨rest, rfl⟩ := above
  have new : (rest, some text) ∈ (tree.write (path ++ rest) text).under path := by
    rw [mem_under, write_eq free]
    exact List.mem_append_right _ (List.mem_singleton.mpr rfl)
  have filled : ((tree.write (path ++ rest) text).under path).isEmpty = false := by
    rw [List.isEmpty_eq_false_iff]
    exact List.ne_nil_of_mem new
  rw [at?_eq] at room
  rw [at?_eq, standing?_write free differ, isBlocked_write below, filled]
  split at room
  · rcases room with room | room <;> cases room
  · rfl
  · split at room
    · rcases room with room | room <;> cases room
    · rename_i unblocked
      rw [if_neg unblocked]
      rfl

/-- Two files put into a directory that was missing, seen from the directories above. -/
theorem at?_write_both {directory : List String} {first second : String}
    (missing : tree.at? directory = .missing) (differ : first ≠ second) (a b : String) :
    let filled := (tree.write (directory ++ [first]) a).write (directory ++ [second]) b
    (∀ path, path <+: directory → (tree.at? path = .directory ∨ tree.at? path = .missing) →
      filled.at? path = .directory) ∧
    filled.at? (directory ++ [first]) = .text a := by
  intro filled
  have apart {one other : String} (differ : one ≠ other) :
      ¬ directory ++ [one] <+: directory ++ [other] := by simpa using differ
  have free := not_isBlocked_of_missing missing
  -- the first file stands beside the way to the second, not on it
  have freeStill :
      (tree.write (directory ++ [first]) a).isBlocked (directory ++ [second]) = false :=
    (isBlocked_write (apart differ) a).trans (free second)
  constructor
  · intro path above room
    have beyond (file : String) : path <+: directory ++ [file] ∧ path ≠ directory ++ [file] := by
      refine ⟨above.trans (List.prefix_append _ _), fun same => ?_⟩
      have shorter := above.length_le
      rw [same, List.length_append, List.length_singleton] at shorter
      omega
    have once := at?_write_above (free first) (beyond first).1 (beyond first).2 a room
    exact at?_write_above freeStill (beyond second).1 (beyond second).2 b (.inl once)
  · rw [at?_write_of_apart (apart differ) (apart differ.symm)]
    exact at?_write_self (free first) a

end Catalog.Disk.Tree
