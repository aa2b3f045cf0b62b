import Catalog.Proofs.Document.Depth
import Catalog.Proofs.Store.Permanence

/-!
Files that requests leave readable. What is written is read back unless some document nests deeper
than the reader allows; the writer does not look at the depth, so a request with a path of too many
names makes the whole collection unreadable.
-/
namespace Catalog.Store

open Json Value

namespace Request

/-- Data and patches read back as they were written. -/
def Steady (request : Request α) : Prop :=
  (∀ data, request.data? = some data → data.Rereads data) ∧
    ∀ patch, request.patch? = some patch → patch.Rereads patch

/-- Data leave room for the array around the documents, and so does every path of a patch with
the value at its end. -/
def Shallow (request : Request α) : Prop :=
  (∀ data, request.data? = some data → data.depth < Progress.deepest) ∧
    ∀ patch, request.patch? = some patch → ∀ m ∈ Document.membersOf patch,
      Field.fixed m.1 = true ∨ (segments m.1).length + m.2.depth < Progress.deepest

end Request

namespace Collection

variable {moment : Moment} {now : Time.Instant} {request : Request α} {docs written : List Value}
  {data patch doc : Value}

theorem stamp_steady : (Document.stampValue now).Rereads (Document.stampValue now) := rfl

theorem rereads_patched (steady : doc.Rereads doc) (patchSteady : patch.Rereads patch) :
    (patched now patch doc).Rereads (patched now patch doc) := by
  have merged := Document.rereads_merge steady (Document.rereads_membersOf patchSteady)
  exact Document.rereads_set merged stamp_steady _

theorem rereads_newDocument (steady : data.Rereads data) :
    (newDocument moment data).Rereads (newDocument moment data) := by
  have identity : (Value.text moment.fresh).Rereads (.text moment.fresh) := rfl
  have identified := Document.rereads_set steady identity Field.id
  exact Document.rereads_set (Document.rereads_set identified stamp_steady _) stamp_steady _

theorem endures_newDocument (endures : data.Endures) : (newDocument moment data).Endures := by
  have identified := Document.endures_set endures
    (show (Value.text moment.fresh).Rereads (.text moment.fresh) from rfl) Field.id
  exact Document.endures_set (Document.endures_set identified stamp_steady _) stamp_steady _

theorem Change.steady (change : Change moment request docs written)
    (before : ∀ doc ∈ docs, doc.Rereads doc) (steady : request.Steady) :
    ∀ doc ∈ written, doc.Rereads doc :=
  change.all before (fun data given => rereads_newDocument (steady.1 data given))
    fun patch _ given held => rereads_patched held (steady.2 patch given)

theorem depth_set_text {name text : String} (single : segments name = [name])
    (shallow : doc.depth < Progress.deepest) :
    (Document.set doc name (.text text)).depth < Progress.deepest := by
  have room : 1 < Progress.deepest := by decide
  apply Document.depth_set_lt shallow
  rw [single]
  exact room

theorem depth_patched (shallow : doc.depth < Progress.deepest)
    (fits : ∀ m ∈ Document.membersOf patch,
      Field.fixed m.1 = true ∨ (segments m.1).length + m.2.depth < Progress.deepest) :
    (patched now patch doc).depth < Progress.deepest :=
  depth_set_text (by decide) (Document.depth_merge_lt shallow fits)

theorem depth_newDocument (shallow : data.depth < Progress.deepest) :
    (newDocument moment data).depth < Progress.deepest := by
  have identified : (Document.set data Field.id (.text moment.fresh)).depth < Progress.deepest :=
    depth_set_text (by decide) shallow
  exact depth_set_text (by decide) (depth_set_text (by decide) identified)

theorem Change.shallow (change : Change moment request docs written)
    (before : itemsDepth docs < Progress.deepest) (shallow : request.Shallow) :
    itemsDepth written < Progress.deepest := by
  have each : ∀ doc ∈ docs, doc.depth < Progress.deepest :=
    fun doc member => (depth_le_of_mem member).trans_lt before
  have all := change.all each (fun data given => depth_newDocument (shallow.1 data given))
    fun patch doc given held => depth_patched held (shallow.2 patch given)
  exact itemsDepth_lt (by decide) all

end Collection

namespace Turn

variable {turn : Turn} {file : File} {docs : List Value}

/-- The documents that turns make of documents, one turn after the other. -/
def documentsAll (turns : List Turn) (docs : List Value) : List Value :=
  turns.foldl (fun docs turn => turn.documents docs) docs

/-- After a turn the file holds what the turn made of the documents, and it loads unless that
nests too deep. -/
theorem load_run (loaded : file.load = .ok docs) (steadyDocs : ∀ doc ∈ docs, doc.Rereads doc)
    (formed : turn.request.Formed) (steady : turn.request.Steady) :
    (turn.run file).load = if itemsDepth (turn.documents docs) < Progress.deepest
      then .ok (turn.documents docs)
      else .error (.corrupt file.path (Complaint.ofText (File.textOf (turn.documents docs)))) := by
  rcases run_loaded turn loaded with ⟨unchanged, same⟩ | ⟨stored, change⟩
  · rw [unchanged, same, if_pos (File.depth_of_load loaded)]
    exact loaded
  · have written := change.steady steadyDocs steady
    rw [stored]
    apply File.load_store file (change.wellFormed (File.wellFormed_of_load loaded) formed)
    exact rereadItems?_eq_some.mpr (List.forall₂_same.mpr written)

theorem steady_documents (loaded : file.load = .ok docs)
    (steadyDocs : ∀ doc ∈ docs, doc.Rereads doc) (steady : turn.request.Steady) :
    ∀ doc ∈ turn.documents docs, doc.Rereads doc := by
  rcases run_loaded turn loaded with ⟨-, same⟩ | ⟨-, change⟩
  · rw [same]
    exact steadyDocs
  · exact change.steady steadyDocs steady

theorem shallow_documents (loaded : file.load = .ok docs) (shallow : turn.request.Shallow) :
    itemsDepth (turn.documents docs) < Progress.deepest := by
  have before := File.depth_of_load loaded
  rcases run_loaded turn loaded with ⟨-, same⟩ | ⟨-, change⟩
  · rw [same]
    exact before
  · exact change.shallow before shallow

theorem load_run_shallow (loaded : file.load = .ok docs)
    (steadyDocs : ∀ doc ∈ docs, doc.Rereads doc) (formed : turn.request.Formed)
    (steady : turn.request.Steady) (shallow : turn.request.Shallow) :
    (turn.run file).load = .ok (turn.documents docs) := by
  rw [load_run loaded steadyDocs formed steady, if_pos (shallow_documents loaded shallow)]

theorem load_runAll {turns : List Turn} (loaded : file.load = .ok docs)
    (steadyDocs : ∀ doc ∈ docs, doc.Rereads doc) (formed : ∀ turn ∈ turns, turn.request.Formed)
    (steady : ∀ turn ∈ turns, turn.request.Steady)
    (shallow : ∀ turn ∈ turns, turn.request.Shallow) :
    (runAll turns file).load = .ok (documentsAll turns docs) ∧
      ∀ doc ∈ documentsAll turns docs, doc.Rereads doc := by
  -- That the file loads does not carry the induction: its documents have to read back as well.
  induction turns generalizing file docs with
  | nil => exact ⟨loaded, steadyDocs⟩
  | cons turn turns ih =>
    obtain ⟨formedHere, formedRest⟩ := List.forall_mem_cons.mp formed
    obtain ⟨steadyHere, steadyRest⟩ := List.forall_mem_cons.mp steady
    obtain ⟨shallowHere, shallowRest⟩ := List.forall_mem_cons.mp shallow
    have next := load_run_shallow loaded steadyDocs formedHere steadyHere shallowHere
    have documents := steady_documents loaded steadyDocs steadyHere
    exact ih next documents formedRest steadyRest shallowRest

end Turn

/-- Requests that go nowhere too deep leave a collection readable, with exactly the documents that
they computed. One more request, however deep it goes, leaves it readable just if none of the
documents it computes nests too deep. -/
theorem shallow_writes_stay_readable (file : File) (docs : List Value) (turns : List Turn)
    (loaded : file.load = .ok docs) (steadyDocs : ∀ doc ∈ docs, doc.Rereads doc)
    (formed : ∀ turn ∈ turns, turn.request.Formed) (steady : ∀ turn ∈ turns, turn.request.Steady)
    (shallow : ∀ turn ∈ turns, turn.request.Shallow) :
    (Turn.runAll turns file).load = .ok (Turn.documentsAll turns docs) ∧
      ∀ last : Turn, last.request.Formed → last.request.Steady →
        let written := last.documents (Turn.documentsAll turns docs)
        (last.run (Turn.runAll turns file)).load =
          if itemsDepth written < Progress.deepest then .ok written
          else .error (.corrupt (Turn.runAll turns file).path
            (Complaint.ofText (File.textOf written))) := by
  obtain ⟨readable, documents⟩ := Turn.load_runAll loaded steadyDocs formed steady shallow
  refine ⟨readable, ?_⟩
  intro last lastFormed lastSteady
  exact Turn.load_run readable documents lastFormed lastSteady

/-! The limit met and passed -/

/-- A path of one name and so many more. -/
def trail : Nat → List Char
  | 0 => ['a']
  | more + 1 => 'a' :: '.' :: trail more

theorem segments_trail (more : Nat) :
    segments (String.ofList (trail more)) = List.replicate (more + 1) "a" := by
  have parts : Text.splitAt '.' (trail more) = List.replicate (more + 1) ['a'] := by
    induction more with
    | zero => rfl
    | succ more ih => simp [trail, Text.splitAt, ih, List.replicate_succ]
  rw [segments, Text.splitText, String.toList_ofList, parts, List.map_replicate]

theorem trail_free (more : Nat) : Field.fixed (String.ofList (trail more)) = false := by
  apply Bool.eq_false_iff.mpr
  intro fixed
  have first : (segments (String.ofList (trail more))).head? = some "a" := by
    rw [segments_trail]
    rfl
  rcases Bool.or_eq_true_iff.mp fixed with same | same
  · rw [eq_of_beq same] at first
    exact absurd first (by decide)
  · rw [eq_of_beq same] at first
    exact absurd first (by decide)

def burrowing (more : Nat) : Value := .object [(String.ofList (trail more), .bool true)]

/-- Every document takes a patch with a long path. -/
def burrow (more : Nat) : Turn := ⟨⟨⟨5, 0⟩, "0b"⟩, .updateMany [] (burrowing more)⟩

theorem burrow_formed (more : Nat) : (burrow more).request.Formed := by
  refine ⟨fun _ given => (nomatch given), ?_⟩
  intro patch given
  cases given
  exact ⟨List.pairwise_singleton _ _, trivial, trivial⟩

theorem burrow_steady (more : Nat) : (burrow more).request.Steady := by
  refine ⟨fun _ given => (nomatch given), ?_⟩
  intro patch given
  cases given
  rfl

theorem burrow_shallow {more : Nat} (few : more + 1 < Progress.deepest) :
    (burrow more).request.Shallow := by
  refine ⟨fun _ given => (nomatch given), ?_⟩
  intro patch given
  cases given
  intro m member
  rw [List.mem_singleton.mp member, segments_trail, List.length_replicate]
  exact .inr few

/-- The patch is found in the document that took it, as deep as its path is long. -/
theorem burrowed_depth (more : Nat) (now : Time.Instant) (doc : Value) :
    more + 1 ≤ (Collection.patched now (burrowing more) doc).depth := by
  have found : Document.select (Collection.patched now (burrowing more) doc)
      (List.replicate (more + 1) "a") = some (.bool true) := by
    have apart : Document.Diverge (segments Field.updatedAt) (List.replicate (more + 1) "a") :=
      Document.diverge_of_head (by decide) _
    rw [Collection.patched, Document.touch, Document.select_set_of_diverge apart, burrowing,
      Document.membersOf, Document.merge_cons, trail_free, ← segments_trail]
    exact Document.resolve_set_self
  have deep := Document.depth_of_select found
  rw [List.length_replicate] at deep
  exact deep

theorem shallow_writes_stay_readable_burrowed :
    (Turn.runAll [burrow 125] register).load = .ok (Turn.documentsAll [burrow 125] registered) ∧
      ∀ last : Turn, last.request.Formed → last.request.Steady →
        let written := last.documents (Turn.documentsAll [burrow 125] registered)
        (last.run (Turn.runAll [burrow 125] register)).load =
          if itemsDepth written < Progress.deepest then .ok written
          else .error (.corrupt (Turn.runAll [burrow 125] register).path
            (Complaint.ofText (File.textOf written))) := by
  apply shallow_writes_stay_readable register registered [burrow 125] register_load
  · exact List.forall_mem_singleton.mpr rfl
  · exact List.forall_mem_singleton.mpr (burrow_formed 125)
  · exact List.forall_mem_singleton.mpr (burrow_steady 125)
  · exact List.forall_mem_singleton.mpr (burrow_shallow (by decide))

theorem burrowed_unreadable : ((burrow 126).run register).load = .error (.corrupt register.path
    (Complaint.ofText (File.textOf ((burrow 126).documents registered)))) := by
  have one : (burrow 126).documents registered =
      registered.map (Collection.patched ⟨5, 0⟩ (burrowing 126)) := rfl
  rw [Turn.load_run register_load (List.forall_mem_singleton.mpr rfl) (burrow_formed 126)
    (burrow_steady 126)]
  apply if_neg
  rw [one]
  intro shallow
  have deep := burrowed_depth 126 ⟨5, 0⟩
  exact absurd ((deep _).trans (depth_le_of_mem (List.mem_map_of_mem List.mem_cons_self)))
    (Nat.not_le.mpr shallow)

/-- With one name more the write is answered and the collection is lost, whatever is asked later. -/
theorem deep_path_loses_collection :
    register.load = .ok registered ∧ (burrow 126).request.Formed ∧ (burrow 126).request.Steady ∧
      (register.answer (burrow 126).moment (burrow 126).request).1 = .ok (1 : Nat) ∧
      ∀ later, (Turn.runAll (burrow 126 :: later) register).load = .error (.corrupt register.path
        (Complaint.ofText (File.textOf ((burrow 126).documents registered)))) := by
  refine ⟨register_load, burrow_formed 126, burrow_steady 126, rfl, ?_⟩
  intro later
  rw [Turn.runAll_cons, Turn.runAll_unreadable later burrowed_unreadable]
  exact burrowed_unreadable

end Catalog.Store
