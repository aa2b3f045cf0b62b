import Mathlib.Data.List.Basic
import Catalog.Text.Blank

/-!
Texts split at a separator. Splitting undoes joining parts without separators and joining undoes
splitting; the first separator alone cuts a text in two.
-/
namespace Catalog.Text

variable {sep : Char} {cs part before after : List Char}

theorem splitAt_eq_splitOn (sep : Char) (cs : List Char) : splitAt sep cs = cs.splitOn sep := by
  induction cs with
  | nil => rfl
  | cons c cs ih =>
    rw [List.splitOn_cons_eq_if_modifyHead, ← ih, splitAt]
    split
    · rfl
    · cases parts : splitAt sep cs with
      | nil => exact absurd (ih ▸ parts) (List.splitOn_ne_nil sep cs)
      | cons => rfl

theorem splitAt_ne_nil (sep : Char) (cs : List Char) : splitAt sep cs ≠ [] := by
  rw [splitAt_eq_splitOn]
  exact List.splitOn_ne_nil sep cs

theorem splitAt_of_not_mem (out : sep ∉ cs) : splitAt sep cs = [cs] := by
  rw [splitAt_eq_splitOn, List.splitOn_eq_singleton out]

theorem not_mem_of_mem_splitAt (member : part ∈ splitAt sep cs) : sep ∉ part := by
  induction cs generalizing part with
  | nil =>
    rw [List.mem_singleton.mp member]
    exact List.not_mem_nil
  | cons c cs ih =>
    unfold splitAt at member
    split at member
    · rcases List.mem_cons.mp member with rfl | later
      · exact List.not_mem_nil
      · exact ih later
    · rename_i apart
      cases parts : splitAt sep cs with
      | nil => exact absurd parts (splitAt_ne_nil sep cs)
      | cons first more =>
        rw [parts] at member ih
        rcases List.mem_cons.mp member with rfl | later
        · have differ : sep ≠ c := fun same => apart (beq_iff_eq.mpr same.symm)
          exact List.not_mem_cons_of_ne_of_not_mem differ (ih List.mem_cons_self)
        · exact ih (List.mem_cons_of_mem _ later)

theorem intercalate_splitAt (sep : Char) (cs : List Char) :
    [sep].intercalate (splitAt sep cs) = cs := by
  rw [splitAt_eq_splitOn, List.intercalate_splitOn]

theorem intercalate_append (sep : Char) {front back : List (List Char)} (some : front ≠ [])
    (more : back ≠ []) :
    [sep].intercalate (front ++ back) =
      [sep].intercalate front ++ sep :: [sep].intercalate back := by
  induction front with
  | nil => exact absurd rfl some
  | cons part front ih =>
    cases front with
    | nil =>
      obtain ⟨next, later, rfl⟩ := List.exists_cons_of_ne_nil more
      simp [List.intercalate_cons_cons, List.intercalate_singleton]
    | cons next front =>
      have rest := ih (List.cons_ne_nil _ _)
      simp only [List.cons_append, List.intercalate_cons_cons] at rest ⊢
      rw [rest]
      simp

theorem splitAt_intercalate {parts : List (List Char)} (some : parts ≠ [])
    (out : ∀ part ∈ parts, sep ∉ part) : splitAt sep ([sep].intercalate parts) = parts := by
  rw [splitAt_eq_splitOn, List.splitOn_intercalate sep out some]

/-! Texts up to the first separator -/

theorem of_splitOnce (cut : splitOnce sep cs = some (before, after)) :
    cs = before ++ sep :: after ∧ sep ∉ before := by
  induction cs generalizing before with
  | nil => cases cut
  | cons c cs ih =>
    simp only [splitOnce] at cut
    split at cut
    · rename_i here
      cases cut
      exact ⟨by rw [beq_iff_eq.mp here]; rfl, List.not_mem_nil⟩
    · rename_i other
      obtain ⟨⟨front, back⟩, found, same⟩ := Option.map_eq_some_iff.mp cut
      cases same
      obtain ⟨whole, none⟩ := ih found
      have apart : sep ≠ c := fun same => other (beq_iff_eq.mpr same.symm)
      exact ⟨by rw [whole]; rfl, List.not_mem_cons_of_ne_of_not_mem apart none⟩

theorem splitOnce_append (out : sep ∉ before) (after : List Char) :
    splitOnce sep (before ++ sep :: after) = some (before, after) := by
  induction before with
  | nil => simp [splitOnce]
  | cons c before ih =>
    obtain ⟨apart, rest⟩ := not_or.mp (mt List.mem_cons.mpr out)
    simp [splitOnce, Ne.symm apart, ih rest]

theorem splitOnce_of_not_mem (out : sep ∉ cs) : splitOnce sep cs = none := by
  cases cut : splitOnce sep cs with
  | none => rfl
  | some parts =>
    obtain ⟨whole, -⟩ := of_splitOnce cut
    exact absurd (whole ▸ List.mem_append_right _ List.mem_cons_self) out

end Catalog.Text
