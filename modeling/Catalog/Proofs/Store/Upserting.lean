import Catalog.Proofs.Document.Patching
import Catalog.Proofs.Store.Places

/-!
What an upsert stores of its data. Merged into a document, the names of the data are paths, and each
of them leads to its value. In a new document they are the names of members: a dotted name is then a
member that no path leads to, so the filter that asks for it never selects the document.
-/
namespace Catalog

open Json

namespace Document

variable {doc value : Value} {data : Members} {path name : String} {now : Time.Instant}

/-- No name is, as a path, continued by another one. -/
def Separate (data : Members) : Prop :=
  ∀ m ∈ data, ∀ n ∈ data, segments m.1 <+: segments n.1 → m.1 = n.1

instance Separate.decidable : DecidablePred Separate := fun data =>
  inferInstanceAs (Decidable (∀ m ∈ data, ∀ n ∈ data, segments m.1 <+: segments n.1 → m.1 = n.1))

/-- The path begins with none of the names that a stamp sets. -/
def Unstamped (path : String) : Prop :=
  ∀ name ∈ [Field.id, Field.createdAt, Field.updatedAt], (segments path).head? ≠ some name

instance Unstamped.decidable : DecidablePred Unstamped := fun path => inferInstanceAs
  (Decidable (∀ name ∈ [Field.id, Field.createdAt, Field.updatedAt],
    (segments path).head? ≠ some name))

theorem segments_stamped : ∀ name ∈ [Field.id, Field.createdAt, Field.updatedAt],
    segments name = [name] := by
  decide

theorem Unstamped.not_fixed (own : Unstamped path) : Field.fixed path = false := by
  have other : ∀ name ∈ [Field.id, Field.createdAt, Field.updatedAt], path ≠ name := by
    rintro name member rfl
    exact own path member (by rw [segments_stamped path member, List.head?_cons])
  simp [Field.fixed, other]

theorem Unstamped.resolve_set (own : Unstamped path)
    (member : name ∈ [Field.id, Field.createdAt, Field.updatedAt]) :
    resolve (set doc name value) path = resolve doc path := by
  apply resolve_set_of_diverge
  rw [segments_stamped name member]
  exact diverge_symm (diverge_of_head (own name member) [])

/-- A member leads to its value by its name if that has no dots; no path leads to another. -/
theorem resolve_member (separate : Separate data) (held : Members.get? path data = some value) :
    resolve (.object data) path = if (segments path).length = 1 then some value else none := by
  cases parts : segments path with
  | nil => exact absurd parts (segments_ne_nil path)
  | cons first rest =>
    have single : segments first = [first] := segments_of_mem (parts ▸ List.mem_cons_self)
    cases rest with
    | nil =>
      have same : first = path := segments_injective (single.trans parts.symm)
      rw [resolve, parts, select_one, same]
      exact held
    | cons second more =>
      -- A member of the first name would be a path that this one continues.
      have absent : Members.get? first data = none := by
        by_contra found
        obtain ⟨other, there⟩ := Option.ne_none_iff_exists'.mp found
        have leads : segments first <+: segments path := by
          rw [single, parts]
          exact List.prefix_append [first] (second :: more)
        have same : first = path :=
          separate _ (Members.mem_of_get? there) _ (Members.mem_of_get? held) leads
        rw [same, parts] at single
        cases single
      simp [resolve, parts, select, Value.member?, absent]

end Document

namespace Store

open Document

variable {δ : Type} [Service δ] {s : Storage δ} {now : Time.Instant} {filter : Query.Filter} {data : Members}
  {docs : List Value} {doc value : Value} {path : String} {moment : Moment}

namespace Collection

theorem resolve_patched (sorted : data.Sorted) (separate : Separate data) (own : Unstamped path)
    (held : Members.get? path data = some value) :
    resolve (patched now (.object data) doc) path = some value := by
  rw [patched, touch, own.resolve_set (by simp)]
  exact resolve_merge sorted own.not_fixed held fun m member leads =>
    (separate _ (Members.mem_of_get? held) m member leads).symm

theorem resolve_newDocument (separate : Separate data) (own : Unstamped path)
    (held : Members.get? path data = some value) :
    resolve (newDocument moment (.object data)) path =
      if (segments path).length = 1 then some value else none := by
  rw [newDocument, touch, own.resolve_set (by simp), own.resolve_set (by simp),
    own.resolve_set (by simp), resolve_member separate held]

end Collection

namespace Session

/-- An upsert with the record that it stored, and what the paths of the data lead to in the record:
to their values, except that nothing is at a dotted path of a new one. -/
structure Upserts (now : Time.Instant) (filter : Query.Filter) (data : Members) (s : Storage δ)
    (docs : List Value) (created : Bool) (record : Value) (written : List Value) : Prop where
  writes : Writes now (.upsert filter (.object data)) s ⟨created, record⟩ written
  member : record ∈ written
  creates : created = true ↔ ∀ doc ∈ docs, Query.selects filter doc = false
  reads : ∀ path value, Members.get? path data = some value → Unstamped path →
    resolve record path =
      if created = true ∧ (segments path).length ≠ 1 then none else some value

theorem Upserts.stored {created : Bool} {record : Value} {written read : List Value}
    (upserts : Upserts now filter data s docs created record written)
    (loaded : (s.written 1 written).file.load = .ok read) :
    ∃ stored ∈ read, record.Rereads stored := by
  have related := (upserts.writes.loads read).mp loaded
  exact exists_of_mem_forall₂ related.1.flip upserts.member

theorem upserts_match {earlier later : List Value} (holds : s.Holds docs)
    (formed : (Value.object data).WellFormed) (separate : Separate data)
    (placed : docs = earlier ++ doc :: later)
    (passed : ∀ d ∈ earlier, Query.selects filter d = false)
    (selected : Query.selects filter doc = true) :
    Upserts now filter data s docs false (Collection.patched now (.object data) doc)
      (earlier ++ Collection.patched now (.object data) doc :: later) where
  writes := upsert_writes_match holds formed now placed passed selected
  member := List.mem_append_right _ List.mem_cons_self
  creates := by
    have inside : doc ∈ docs := placed ▸ List.mem_append_right _ List.mem_cons_self
    refine iff_of_false Bool.false_ne_true fun none => ?_
    exact absurd selected (Bool.eq_false_iff.mp (none doc inside))
  reads path value held own := by
    simpa using Collection.resolve_patched formed.1 separate own held

theorem upserts_new (holds : s.Holds docs) (formed : (Value.object data).WellFormed)
    (separate : Separate data) (passed : ∀ d ∈ docs, Query.selects filter d = false) :
    Upserts now filter data s docs true
      (Collection.newDocument ⟨now, s.ids s.issued⟩ (.object data))
      (docs ++ [Collection.newDocument ⟨now, s.ids s.issued⟩ (.object data)]) where
  writes := upsert_writes_new holds formed now passed
  member := List.mem_append_right _ (List.mem_singleton.mpr rfl)
  creates := iff_of_true rfl passed
  reads path value held own := by
    rw [Collection.resolve_newDocument separate own held]
    by_cases plain : (segments path).length = 1 <;> simp [plain]

/-- An upsert answers with the record it stored, and a name of its data that is no path through a
stamp leads to its value there, unless the record is new and the name has a dot: then it leads
nowhere. The record reads back with its numbers reread. -/
theorem upsert_reads_data (s : Storage δ) (docs : List Value) (now : Time.Instant)
    (filter : Query.Filter) (data : Members) (holds : s.Holds docs)
    (formed : (Value.object data).WellFormed) (separate : Separate data) :
    ∃ created record written, Upserts now filter data s docs created record written ∧
      ∀ read, (s.written 1 written).file.load = .ok read → ∃ stored ∈ read, record.Rereads stored ∧
        ∀ path, Option.Rel Value.Rereads (resolve record path) (resolve stored path) := by
  suffices done : ∃ created record written,
      Upserts now filter data s docs created record written by
    obtain ⟨created, record, written, upserts⟩ := done
    refine ⟨created, record, written, upserts, fun read loaded => ?_⟩
    obtain ⟨stored, member, reread⟩ := upserts.stored loaded
    exact ⟨stored, member, reread, fun path => select_reread reread (segments path)⟩
  cases found : places filter docs with
  | nil =>
    have passed := List.findIdxs_eq_nil_iff.mp found
    exact ⟨_, _, _, upserts_new holds formed separate passed⟩
  | cons i rest =>
    obtain ⟨earlier, doc, later, placed, -, selected, passed⟩ := exists_append_of_findIdxs found
    exact ⟨_, _, _, upserts_match holds formed separate placed passed selected⟩

/-- Data with a plain and a dotted name. -/
def platformed : Members := [("source.platform", .text "MLH"), ("title", .text "A")]

theorem platformed_formed : (Value.object platformed).WellFormed :=
  ⟨by decide, trivial, trivial, trivial⟩

theorem platformed_separate : Separate platformed := by decide

theorem upsert_reads_data_scored :
    scoreShelf.Holds (scored 8567991254637793) ∧ (Value.object platformed).WellFormed ∧
      Separate platformed ∧ ∃ record written,
        Upserts ⟨5, 0⟩ (Query.Filter.byId "a") platformed scoreShelf (scored 8567991254637793) false
          record written ∧
        resolve record "source.platform" = some (.text "MLH") ∧
        resolve record "title" = some (.text "A") := by
  obtain ⟨created, record, written, upserts, -⟩ := upsert_reads_data scoreShelf _ ⟨5, 0⟩
    (Query.Filter.byId "a") platformed scoreShelf_holds platformed_formed platformed_separate
  have merged : created = false := by
    rw [Bool.eq_false_iff, Ne, upserts.creates]
    intro none
    exact absurd (none _ List.mem_cons_self) (by decide)
  subst merged
  refine ⟨scoreShelf_holds, platformed_formed, platformed_separate, record, written, upserts, ?_, ?_⟩
  · simpa using upserts.reads "source.platform" _ rfl (by decide)
  · simpa using upserts.reads "title" _ rfl (by decide)

def onPlatform : Query.Filter := [Query.Filter.eq Field.platform (.text "MLH")]

def emptyShelf : Storage := .fileOnly ⟨"shelf.json", .missing⟩

def platformOnly : Members := [("source.platform", .text "MLH")]

/-- The new document of these data. -/
def platformRecord (id : String) : Value :=
  .object [("createdAt", .text "1970-01-01T00:00:05.000Z"), ("id", .text id),
    ("source.platform", .text "MLH"), ("updatedAt", .text "1970-01-01T00:00:05.000Z")]

theorem newDocument_platformOnly (id : String) :
    Collection.newDocument ⟨⟨5, 0⟩, id⟩ (.object platformOnly) = platformRecord id := by
  have stamp : stampValue ⟨5, 0⟩ = .text "1970-01-01T00:00:05.000Z" := rfl
  rw [Collection.newDocument, touch, stamp]
  rfl

/-- Where such records are, another one joins them. -/
theorem platformOnly_again {ids : List String} (holds : s.Holds (ids.map platformRecord)) :
    ∃ after, ask ⟨5, 0⟩ (.upsert onPlatform (.object platformOnly)) s =
        (.ok ⟨true, platformRecord (s.ids s.issued)⟩, after) ∧
      after.Holds ((ids ++ [s.ids s.issued]).map platformRecord) := by
  have passed : ∀ doc ∈ ids.map platformRecord, Query.selects onPlatform doc = false :=
    List.forall_mem_map.mpr fun id _ => rfl
  have formed : (Value.object platformOnly).WellFormed := ⟨by decide, trivial, trivial⟩
  have wrote := upsert_writes_new holds formed ⟨5, 0⟩ passed
  rw [newDocument_platformOnly, ← List.map_singleton, ← List.map_append] at wrote
  have steady : ∀ doc ∈ (ids ++ [s.ids s.issued]).map platformRecord,
      doc.Rereads doc := List.forall_mem_map.mpr fun id _ => rfl
  have shallow : Value.itemsDepth ((ids ++ [s.ids s.issued]).map platformRecord) <
      Progress.deepest :=
    Value.itemsDepth_lt (by decide) (List.forall_mem_map.mpr fun id _ => show 1 < _ by decide)
  exact ⟨_, wrote.asked, wrote.holds holds.active (List.forall₂_same.mpr steady) shallow⟩

/-- Nothing is at the platform of a new record, and a second upsert of the same data does not find
the record of the first. -/
theorem dotted_names_pile_up :
    Separate platformOnly ∧ Unstamped "source.platform" ∧
      Members.get? "source.platform" platformOnly = some (.text "MLH") ∧
      ∃ first second before after,
        ask ⟨5, 0⟩ (.upsert onPlatform (.object platformOnly)) emptyShelf =
          (.ok ⟨true, first⟩, before) ∧
        resolve first "source.platform" = none ∧
        ask ⟨5, 0⟩ (.upsert onPlatform (.object platformOnly)) before =
          (.ok ⟨true, second⟩, after) ∧
        ask ⟨5, 0⟩ (.count []) after = (.ok 2, after.after 1) := by
  have empty : emptyShelf.Holds (([] : List String).map platformRecord) := ⟨rfl, rfl⟩
  obtain ⟨before, once, one⟩ := platformOnly_again empty
  obtain ⟨after, twice, both⟩ := platformOnly_again one
  have counted := (readers ⟨5, 0⟩ [] both).count
  exact ⟨by decide, by decide, rfl, _, _, before, after, once, rfl, twice, counted⟩

end Session

end Store

end Catalog
