import Catalog.Proofs.Document.Reread
import Catalog.Proofs.Store.Changes
import Catalog.Proofs.Store.File
import Catalog.Proofs.Store.Session

/-!
The places of the documents that a filter selects. Every request with a filter reads or writes at
these places: finding, counting and updating at all of them, finding one and upserting at the first.
A write changes no other place, and the record it answers stands in the file it leaves.
-/
namespace Catalog.Store

open Json

variable {δ : Type} {s : Storage δ} {now : Time.Instant} {filter : Query.Filter} {data : Members}
  {docs earlier later : List Value} {doc : Value}

/-- The places of the documents that a filter selects. -/
def places (filter : Query.Filter) (docs : List Value) : List Nat :=
  docs.findIdxs (Query.selects filter)

namespace Collection

variable {moment : Moment}

theorem answer_find (moment : Moment) (page : Nat) (filter : Query.Filter) (docs : List Value) :
    answer moment (.find filter { page := page }) docs =
      .ok (⟨(places filter docs).filterMap (docs[·]?), (places filter docs).length⟩, none) := by
  have found := filter_eq_filterMap_findIdxs (Query.selects filter) docs
  simp only [answer, Query.Selection.window, Session.apply_nil, places, ← found,
    List.length_findIdxs, List.countP_eq_length_filter]

theorem answer_count (moment : Moment) (filter : Query.Filter) (docs : List Value) :
    answer moment (.count filter) docs = .ok ((places filter docs).length, none) := by
  simp only [answer, places, List.length_findIdxs]

theorem find?_places (filter : Query.Filter) (docs : List Value) :
    docs.find? (Query.selects filter) = (places filter docs).head?.bind (docs[·]?) := by
  cases first : places filter docs with
  | nil =>
    have passed := List.findIdxs_eq_nil_iff.mp first
    simpa using passed
  | cons i rest =>
    obtain ⟨earlier, doc, later, rfl, rfl, selected, passed⟩ := exists_append_of_findIdxs first
    have found : (earlier ++ doc :: later).find? (Query.selects filter) = some doc :=
      List.find?_eq_some_iff_append.mpr ⟨selected, earlier, later, rfl, by simpa using passed⟩
    rw [found]
    simp

theorem answer_updateMany (moment : Moment) (filter : Query.Filter) (patch : Members)
    (docs : List Value) :
    answer moment (.updateMany filter (.object patch)) docs =
      .ok ((places filter docs).length, if places filter docs = [] then none
        else some (docs.mapIdx fun i doc => if i ∈ places filter docs
          then patched moment.now (.object patch) doc else doc)) := by
  have total : ∀ doc, revise moment.now (.object patch) doc =
      .ok (patched moment.now (.object patch) doc) := fun _ => rfl
  simp only [answer, reviseAll_eq_map total, map_ite_eq_mapIdx, ← List.length_findIdxs (s := 0),
    beq_iff_eq, List.length_eq_zero_iff]
  rfl

end Collection

/-- What reads back from storage that was written with the documents: each of them in its place and
with its numbers read anew, unless one nests too deep. -/
theorem Storage.load_written (s : Storage δ) (requests : Nat)
    (formed : ∀ doc ∈ docs, doc.WellFormed) (read : List Value) :
    (s.written requests docs).file.load = .ok read ↔
      List.Forall₂ Value.Rereads docs read ∧ Value.itemsDepth read < Progress.deepest := by
  rw [← Value.rereadItems?_eq_some]
  exact File.load_store_eq_ok s.file formed

section Numberless

variable (formed : ∀ doc ∈ docs, doc.WellFormed) (without : Value.numberlessItems docs = true)
  (shallow : Value.itemsDepth docs < Progress.deepest)

include formed without shallow

/-- Documents without numbers load as they were written. -/
theorem File.load_store_numberless (file : File) : (file.store docs).load = .ok docs :=
  (File.load_store file formed (Value.rereadItems?_of_numberless docs without)).trans
    (if_pos shallow)

theorem Storage.holds_store (file : File) :
    (Storage.fileOnly (file.store docs) : Storage δ).Holds docs :=
  ⟨rfl, File.load_store_numberless formed without shallow file⟩

theorem Storage.holds_written (active : s.active = .file) (requests : Nat) :
    (s.written requests docs).Holds docs :=
  ⟨active, File.load_store_numberless formed without shallow s.file⟩

end Numberless

/-! Requests to a file -/

variable [Service δ]

namespace Session

/-- A request that writes, its answer and the documents it writes. The file loads unless one of
them nests too deep, and then holds them in their order with their numbers read anew. -/
structure Writes {α : Type} (now : Time.Instant) (request : Request α) (s : Storage δ) (a : α)
    (written : List Value) : Prop where
  asked : ask now request s = (.ok a, s.written 1 written)
  loads : ∀ read, (s.written 1 written).file.load = .ok read ↔
    List.Forall₂ Value.Rereads written read ∧ Value.itemsDepth read < Progress.deepest

theorem writes_of_answer {α : Type} {request : Request α} {a : α} {written : List Value}
    (holds : s.Holds docs) (accepted : Collection.refusal? request = none)
    (answered : Collection.answer ⟨now, s.ids s.issued⟩ request docs =
      .ok (a, some written)) (formed : request.Formed) : Writes now request s a written where
  asked := ask_write now request holds accepted answered
  loads :=
    s.load_written 1 ((Collection.change_of_answer answered).wellFormed
      (File.wellFormed_of_load holds.loaded) formed)

/-- What was written is held as it reads back, unless it nests too deep. -/
theorem Writes.holds {α : Type} {request : Request α} {a : α} {written read : List Value}
    (writes : Writes now request s a written) (active : s.active = .file)
    (reread : List.Forall₂ Value.Rereads written read)
    (shallow : Value.itemsDepth read < Progress.deepest) : (s.written 1 written).Holds read :=
  ⟨active, (writes.loads read).mpr ⟨reread, shallow⟩⟩

theorem formed_upsert (formed : (Value.object data).WellFormed) :
    (Request.upsert filter (.object data)).Formed := by
  refine ⟨fun data given => ?_, fun patch given => ?_⟩ <;> cases given <;> exact formed

section

variable (holds : s.Holds docs) (formed : (Value.object data).WellFormed)
include holds formed

theorem updateMany_writes (now : Time.Instant) (found : places filter docs ≠ []) :
    Writes now (.updateMany filter (.object data)) s (places filter docs).length
      (docs.mapIdx fun i doc => if i ∈ places filter docs
        then Collection.patched now (.object data) doc else doc) := by
  refine writes_of_answer holds rfl ?_ ⟨fun _ given => (nomatch given), fun patch given => ?_⟩
  · rw [Collection.answer_updateMany, if_neg found]
  · cases given
    exact formed

theorem upsert_writes_match (now : Time.Instant) (placed : docs = earlier ++ doc :: later)
    (passed : ∀ d ∈ earlier, Query.selects filter d = false)
    (selected : Query.selects filter doc = true) :
    Writes now (.upsert filter (.object data)) s
      ⟨false, Collection.patched now (.object data) doc⟩
      (earlier ++ Collection.patched now (.object data) doc :: later) :=
  writes_of_answer holds rfl (Collection.answer_upsert_match placed passed selected)
    (formed_upsert formed)

theorem upsert_writes_new (now : Time.Instant) (passed : ∀ d ∈ docs, Query.selects filter d = false) :
    Writes now (.upsert filter (.object data)) s
      ⟨true, Collection.newDocument ⟨now, s.ids s.issued⟩ (.object data)⟩
      (docs ++ [Collection.newDocument ⟨now, s.ids s.issued⟩ (.object data)]) :=
  writes_of_answer holds rfl (Collection.answer_upsert_new passed) (formed_upsert formed)

end

/-- Finding and counting read at the places of the filter, and finding one at the first of them. -/
structure Readers (now : Time.Instant) (filter : Query.Filter) (s : Storage δ) (docs : List Value) :
    Prop where
  find : ∀ page, ask now (.find filter { page := page }) s =
    (.ok ⟨(places filter docs).filterMap (docs[·]?), (places filter docs).length⟩, s.after 1)
  count : ask now (.count filter) s = (.ok (places filter docs).length, s.after 1)
  findOne : findOne now filter s = (.ok ((places filter docs).head?.bind (docs[·]?)), s.after 1)

/-- Updating writes at the places of the filter, and upserting at the first of them or behind all
documents if there is none. -/
structure Writers (now : Time.Instant) (filter : Query.Filter) (patch : Members) (s : Storage δ)
    (docs : List Value) : Prop where
  updates : places filter docs ≠ [] →
    Writes now (.updateMany filter (.object patch)) s (places filter docs).length
      (docs.mapIdx fun i doc => if i ∈ places filter docs
        then Collection.patched now (.object patch) doc else doc)
  updatesNone : places filter docs = [] →
    ask now (.updateMany filter (.object patch)) s = (.ok 0, s.after 1)
  merges : ∀ i, (places filter docs).head? = some i → ∃ doc, docs[i]? = some doc ∧
    Writes now (.upsert filter (.object patch)) s
      ⟨false, Collection.patched now (.object patch) doc⟩
      (docs.set i (Collection.patched now (.object patch) doc))
  creates : places filter docs = [] →
    Writes now (.upsert filter (.object patch)) s
      ⟨true, Collection.newDocument ⟨now, s.ids s.issued⟩ (.object patch)⟩
      (docs ++ [Collection.newDocument ⟨now, s.ids s.issued⟩ (.object patch)])

theorem readers (now : Time.Instant) (filter : Query.Filter) (holds : s.Holds docs) :
    Readers now filter s docs where
  find page := ask_read now _ holds rfl (Collection.answer_find ⟨now, _⟩ page filter docs)
  count := ask_read now _ holds rfl (Collection.answer_count ⟨now, _⟩ filter docs)
  findOne := by rw [findOne_run now filter holds, Collection.find?_places]

theorem writers (now : Time.Instant) (filter : Query.Filter) (holds : s.Holds docs)
    (formed : (Value.object data).WellFormed) : Writers now filter data s docs where
  updates found := updateMany_writes holds formed now found
  updatesNone none := by
    apply ask_read now _ holds rfl
    rw [Collection.answer_updateMany, if_pos none, none, List.length_nil]
  merges i first := by
    obtain ⟨rest, found⟩ := List.head?_eq_some_iff.mp first
    obtain ⟨earlier, doc, later, placed, rfl, selected, passed⟩ := exists_append_of_findIdxs found
    have wrote := upsert_writes_match holds formed now placed passed selected
    refine ⟨doc, by simp [placed], ?_⟩
    simpa [placed] using wrote
  creates none :=
    upsert_writes_new holds formed now (List.findIdxs_eq_nil_iff.mp none)

/-- Of a file that cannot be read, every request answers its fault. -/
theorem readers_and_writers_share_places (s : Storage δ) (now : Time.Instant) (filter : Query.Filter)
    (patch : Members) (active : s.active = .file) (formed : (Value.object patch).WellFormed) :
    (∀ docs, s.file.load = .ok docs →
      Readers now filter s docs ∧ Writers now filter patch s docs) ∧
    ∀ fault, s.file.load = .error fault →
      (∀ page, ask now (.find filter { page := page }) s = (.error fault, s.after 1)) ∧
      ask now (.count filter) s = (.error fault, s.after 1) ∧
      findOne now filter s = (.error fault, s.after 1) ∧
      ask now (.updateMany filter (.object patch)) s = (.error fault, s.after 1) ∧
      ask now (.upsert filter (.object patch)) s = (.error fault, s.after 1) := by
  refine ⟨fun docs loaded => ?_, fun fault unreadable => ?_⟩
  · have holds : s.Holds docs := ⟨active, loaded⟩
    exact ⟨readers now filter holds, writers now filter holds formed⟩
  · have fails : ∀ {α} (request : Request α), Collection.refusal? request = none →
        ask now request s = (.error fault, s.after 1) :=
      fun request accepted => ask_unreadable now request active accepted unreadable
    exact ⟨fun page => fails _ rfl, fails _ rfl, bind_error (fails _ rfl), fails _ rfl, fails _ rfl⟩

/-- A document whose score is a small double. -/
def score (significand : Nat) : Value :=
  .object [("id", .text "b"), ("score", .number (Number.faint significand))]

/-- Another document, and the one with the score. -/
def scored (significand : Nat) : List Value := [.object [("id", .text "a")], score significand]

theorem score_formed (significand : Nat) : (score significand).WellFormed := by
  have sorted : Text.Before "id" "score" := by decide
  exact ⟨List.pairwise_pair.mpr sorted, trivial, trivial, trivial⟩

theorem scored_formed (significand : Nat) : ∀ doc ∈ scored significand, doc.WellFormed := by
  have first : (Value.object [("id", .text "a")]).WellFormed := ⟨by decide, trivial, trivial⟩
  exact List.forall_mem_cons.mpr ⟨first, List.forall_mem_singleton.mpr (score_formed significand)⟩

theorem depth_scored (significand : Nat) : Value.itemsDepth (scored significand) = 1 := by
  simp [scored, score, Value.itemsDepth, Value.depth, Value.membersDepth]

/-- A storage whose file was written with the two documents. -/
def scoreShelf : Storage :=
  .fileOnly (File.store ⟨"scores.json", .missing⟩ (scored 8567991254637794))

theorem scoreShelf_holds : scoreShelf.Holds (scored 8567991254637793) := by
  have reread : Value.rereadItems? (scored 8567991254637794) = some (scored 8567991254637793) :=
    Value.rereadItems?_eq_some.mpr
      (.cons rfl (.cons (Value.rereads_beside_text Number.faint_down) .nil))
  have shallow : Value.itemsDepth (scored 8567991254637793) < Progress.deepest := by
    rw [depth_scored]
    decide
  exact ⟨rfl, (File.load_store_reread _ (scored_formed _) reread).trans (if_pos shallow)⟩

def retitle : Members := [("title", .text "A")]

theorem retitle_formed : (Value.object retitle).WellFormed := ⟨by decide, trivial, trivial⟩

theorem readers_and_writers_share_places_scored :
    scoreShelf.active = .file ∧ (Value.object retitle).WellFormed ∧
      scoreShelf.file.load = .ok (scored 8567991254637793) ∧
      Readers ⟨5, 0⟩ (Query.Filter.byId "a") scoreShelf (scored 8567991254637793) ∧
      Writers ⟨5, 0⟩ (Query.Filter.byId "a") retitle scoreShelf (scored 8567991254637793) :=
  have holds := scoreShelf_holds
  have agree := (readers_and_writers_share_places scoreShelf ⟨5, 0⟩ (Query.Filter.byId "a") retitle
    holds.active retitle_formed).1 _ holds.loaded
  ⟨holds.active, retitle_formed, holds.loaded, agree⟩

/-- The first document of the two with the title. -/
def retitled : Value := .object [("id", .text "a"), ("title", .text "A"),
  ("updatedAt", .text "1970-01-01T00:00:05.000Z")]

/-- The score reads back as its neighbour, although its document is at none of the places that were
updated. -/
theorem update_moves_numbers :
    scoreShelf.active = .file ∧ scoreShelf.file.load = .ok (scored 8567991254637793) ∧
      places (Query.Filter.byId "a") (scored 8567991254637793) = [0] ∧
      ∃ after read, ask ⟨5, 0⟩ (.updateMany (Query.Filter.byId "a") (.object retitle)) scoreShelf =
          (.ok 1, after) ∧
        after.file.load = .ok read ∧ read[1]? ≠ (scored 8567991254637793)[1]? := by
  have holds := scoreShelf_holds
  have found : places (Query.Filter.byId "a") (scored 8567991254637793) = [0] := rfl
  have wrote : Writes ⟨5, 0⟩ (.updateMany (Query.Filter.byId "a") (.object retitle)) scoreShelf 1
      [retitled, score 8567991254637793] :=
    updateMany_writes holds retitle_formed ⟨5, 0⟩ (found ▸ List.cons_ne_nil 0 [])
  have shallow : Value.itemsDepth [retitled, score 8567991254637794] < Progress.deepest := by
    simp [retitled, score, Value.itemsDepth, Value.depth, Value.membersDepth]
    decide
  have read := wrote.holds holds.active
    (.cons rfl (.cons (Value.rereads_beside_text Number.faint_up) .nil)) shallow
  refine ⟨holds.active, holds.loaded, found, _, _, wrote.asked, read.loaded, ?_⟩
  intro same
  have moved : score 8567991254637794 = score 8567991254637793 := Option.some.inj same
  simp only [score, Value.object.injEq, List.cons.injEq, Prod.mk.injEq, Value.number.injEq,
    true_and, and_true] at moved
  exact absurd (Number.faint_injective moved) (by decide)

end Session

end Catalog.Store
