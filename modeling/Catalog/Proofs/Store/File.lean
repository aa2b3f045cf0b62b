import Catalog.Proofs.Json.Depth
import Catalog.Store.File

/-!
Collection files written and loaded again. A file that was written holds the documents that were
written, with their numbers reread, as long as they do not nest too deep.
-/
namespace Catalog.Store.File

open Json Value

theorem not_blank (docs : List Value) : Text.isBlankText (textOf docs) = false := by
  cases docs <;>
    simp [Text.isBlankText, textOf, indented, writeIndented, Text.isBlank]

theorem documents?_textOf {docs : List Value} (formed : ∀ doc ∈ docs, doc.WellFormed) :
    documents? (textOf docs) =
      (rereadItems? docs).bind fun read =>
        if itemsDepth read < Progress.deepest then some read else none := by
  have whole : (Value.array docs).WellFormed := (itemsWellFormed_iff docs).mpr formed
  rw [documents?, not_blank, textOf, parse?_indented _ whole]
  simp only [Bool.false_eq_true, if_false, reread?]
  cases read : rereadItems? docs with
  | none => rfl
  | some read =>
    simp only [Option.map_some, Option.bind_some, depth, Nat.succ_le_iff]
    split <;> rfl

/-- Documents are loaded with their numbers reread, unless they nest too deep. -/
theorem load_store_reread {docs read : List Value} (file : File)
    (formed : ∀ doc ∈ docs, doc.WellFormed) (reread : rereadItems? docs = some read) :
    (file.store docs).load = if itemsDepth read < Progress.deepest then .ok read
      else .error (.corrupt file.path (Complaint.ofText (textOf docs))) := by
  simp only [load, store, Disk.Content.read, documents?_textOf formed, reread, Option.bind_some]
  by_cases shallow : itemsDepth read < Progress.deepest
  · simp only [if_pos shallow]
  · simp only [if_neg shallow]

theorem load_store {docs : List Value} (file : File) (formed : ∀ doc ∈ docs, doc.WellFormed)
    (steady : rereadItems? docs = some docs) :
    (file.store docs).load = if itemsDepth docs < Progress.deepest then .ok docs
      else .error (.corrupt file.path (Complaint.ofText (textOf docs))) :=
  load_store_reread file formed steady

/-- What loads from a file just written are the documents written, their numbers reread. -/
theorem reread_of_load {file : File} {docs read : List Value}
    (formed : ∀ doc ∈ docs, doc.WellFormed) (loaded : (file.store docs).load = .ok read) :
    rereadItems? docs = some read := by
  simp only [load, store, Disk.Content.read, documents?_textOf formed] at loaded
  cases reread : rereadItems? docs with
  | none => simp [reread] at loaded
  | some ds =>
    by_cases shallow : itemsDepth ds < Progress.deepest
    · simp only [reread, Option.bind_some, if_pos shallow] at loaded
      cases loaded
      rfl
    · simp [reread, shallow] at loaded

theorem documents?_eq_some {s : String} {docs : List Value} (held : documents? s = some docs) :
    docs = [] ∨ parse? s = some (.array docs) := by
  unfold documents? at held
  split at held
  · cases held
    exact .inl rfl
  · obtain ⟨v, read, items⟩ := Option.bind_eq_some_iff.mp held
    cases v with
    | array items' =>
      cases items
      exact .inr read
    | null | bool | number | text | object => cases items

theorem load_eq_ok {file : File} {docs : List Value} (loaded : file.load = .ok docs) :
    docs = [] ∨ ∃ s, parse? s = some (.array docs) := by
  unfold load at loaded
  split at loaded
  · cases loaded
    exact .inl rfl
  · cases loaded
  · split at loaded
    · rename_i held
      cases loaded
      exact (documents?_eq_some held).imp_right fun read => ⟨_, read⟩
    · cases loaded

theorem wellFormed_of_load {file : File} {docs : List Value} (loaded : file.load = .ok docs) :
    ∀ doc ∈ docs, doc.WellFormed := by
  rcases load_eq_ok loaded with none | ⟨s, read⟩
  · rw [none]
    exact fun _ member => nomatch member
  · exact (itemsWellFormed_iff _).mp (wellFormed_of_parse? read)

theorem depth_of_load {file : File} {docs : List Value} (loaded : file.load = .ok docs) :
    itemsDepth docs < Progress.deepest := by
  rcases load_eq_ok loaded with none | ⟨s, read⟩
  · rw [none]
    decide
  · exact depth_of_parse? read

/-- A file just written loads as the documents with their numbers reread, and only if none of them
nests too deep. -/
theorem load_store_eq_ok {docs read : List Value} (file : File)
    (formed : ∀ doc ∈ docs, doc.WellFormed) :
    (file.store docs).load = .ok read ↔
      rereadItems? docs = some read ∧ itemsDepth read < Progress.deepest := by
  constructor
  · intro loaded
    exact ⟨reread_of_load formed loaded, depth_of_load loaded⟩
  · rintro ⟨reread, shallow⟩
    rw [load_store_reread file formed reread, if_pos shallow]

end Catalog.Store.File
