import Mathlib.Data.List.Nodup
import Catalog.Sync.Report
import Catalog.Text.Order

/-!
The platforms of a report. They are kept in the order of their names, so a summary that is added
finds that of its platform, and no name stands twice.
-/
namespace Catalog.Sync.Platforms

variable {platforms : Platforms}

def names (platforms : Platforms) : List String := platforms.map Prod.fst

def Ordered (platforms : Platforms) : Prop := platforms.names.Pairwise Text.Before

theorem names_cons (first : String × SourceSummary) (rest : Platforms) :
    names (first :: rest) = first.1 :: rest.names := rfl

theorem Ordered.nodup (ordered : platforms.Ordered) : platforms.names.Nodup := by
  refine List.Pairwise.imp ?_ ordered
  rintro a b before rfl
  exact Text.not_before_self a before

theorem mem_names_absorb (name : String) (s : SourceSummary) (platforms : Platforms) (n : String) :
    n ∈ (platforms.absorb name s).names ↔ n = name ∨ n ∈ platforms.names := by
  induction platforms with
  | nil => simp [absorb, names]
  | cons first rest ih =>
    obtain ⟨old, t⟩ := first
    unfold absorb
    split
    · rename_i same
      simp [names_cons, eq_of_beq same]
    · split
      · simp [names_cons]
      · simp only [names_cons, List.mem_cons, ih]
        exact or_left_comm

theorem Ordered.absorb (ordered : platforms.Ordered) (name : String) (s : SourceSummary) :
    (platforms.absorb name s).Ordered := by
  induction platforms with
  | nil => exact List.pairwise_singleton _ _
  | cons first rest ih =>
    obtain ⟨old, t⟩ := first
    obtain ⟨above, orderedRest⟩ := List.pairwise_cons.mp ordered
    unfold Platforms.absorb
    split
    · exact ordered
    · rename_i differ
      split
      · rename_i before
        refine List.pairwise_cons.mpr ⟨fun n member => ?_, ordered⟩
        rcases List.mem_cons.mp member with here | later
        · exact here ▸ before
        · exact before.trans (above n later)
      · rename_i after
        have before : Text.Before old name :=
          Text.before_of_not_before after (by simpa using differ)
        refine List.pairwise_cons.mpr ⟨fun n member => ?_, ih orderedRest⟩
        rcases (mem_names_absorb name s rest n).mp member with new | earlier
        · exact new ▸ before
        · exact above n earlier

end Catalog.Sync.Platforms
