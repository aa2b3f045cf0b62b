import Catalog.Proofs.Store.Readable
import Catalog.Proofs.Sync.Isolation
import Catalog.Proofs.Sync.SharedKeys

/-!
Records that share no key are never merged. Each is stored as a document of its own, which answers
keys as the listing does however often the file is read and written again; so no key of a later
listing finds it.
-/
namespace Catalog.Sync

open Json Store

variable {δ : Type}

/-- A record that can be read and has a key, met at a time. -/
structure Visit where
  clock : Time.Instant
  now : Time.Instant
  window : Window
  record : Value
  listing : Listing
  read : Listing.ofValue record = .ok listing
  keyed : listing.candidates ≠ []
  formed : record.WellFormed

namespace Visit

def document (v : Visit) : Value := v.listing.toDocument v.now

/-- The listings share no key, texts of one instant counting as the same. -/
def Distinct (v w : Visit) : Prop := ¬ v.listing.SharesKey Listing.SameText w.listing

/-- The document can be read back from a file time and again. -/
def Fits (v : Visit) : Prop := v.document.Endures ∧ v.document.depth < Progress.deepest

/-- The document holds what the keys of the listing ask for. -/
structure Stored (v : Visit) (doc : Value) : Prop where
  formed : doc.WellFormed
  shows : ∀ path ∈ Listing.keyPaths, Document.resolve doc path = Document.resolve v.document path

variable {v : Visit} {doc other : Value} {id : String}

theorem Stored.selects (stored : v.Stored doc) {key : Query.Filter} (isKey : Listing.IsKey key) :
    Query.selects key doc = Query.selects key v.document :=
  isKey.selects_congr fun path atKey s => by rw [stored.shows path atKey]

theorem stored_newDocument : v.Stored (newDocument v.listing v.now id v.clock) where
  formed := wellFormed_newDocument (Listing.wellFormed_toDocument v.formed v.read v.now)
  shows := fun path atKey =>
    shows_newDocument path (List.mem_append_left _ (List.mem_append_left _ atKey))

theorem Stored.reread (stored : v.Stored doc) (read : doc.Rereads other) : v.Stored other where
  formed := Value.reread?_wellFormed doc other stored.formed read
  shows := fun path atKey => by
    have same := stored.shows path atKey
    refine (Document.resolve_reread_of_steady read fun w found => ?_).trans same
    exact rereads_keyPath atKey (same ▸ found)

theorem Stored.all_formed {visits : List Visit} {docs : List Value}
    (stored : List.Forall₂ Stored visits docs) : ∀ doc ∈ docs, doc.WellFormed := by
  intro doc member
  obtain ⟨v, _, holds⟩ := exists_of_mem_forall₂ stored member
  exact holds.formed

end Visit

/-- Requests go to the file, and if it loads it holds one document for each visit. -/
structure Gathered (met : List Visit) (s : Storage δ) : Prop where
  active : s.active = .file
  stored : ∀ docs, s.file.load = .ok docs → List.Forall₂ Visit.Stored met docs

section Met

variable {met : List Visit} {s : Storage δ} {docs : List Value} {v : Visit}

theorem unmatched_iff_distinct (stored : List.Forall₂ Visit.Stored met docs) (v : Visit) :
    Unmatched v.listing.candidates docs ↔ ∀ m ∈ met, m.Distinct v := by
  have apart : ∀ m : Visit, m.Distinct v ↔
      ∀ key ∈ v.listing.candidates, Query.selects key m.document = false := by
    intro m
    rw [Visit.Distinct, ← Listing.selected_iff_sharesKey v.listing m.listing m.now]
    simp [Visit.document]
  constructor
  · intro unmatched m member
    obtain ⟨doc, there, holds⟩ := exists_of_mem_forall₂ stored.flip member
    refine (apart m).mpr fun key candidate => ?_
    rw [← holds.selects (Listing.isKey_of_mem_candidates candidate)]
    exact unmatched key candidate doc there
  · intro distinct key candidate doc there
    obtain ⟨m, member, holds⟩ := exists_of_mem_forall₂ stored there
    rw [holds.selects (Listing.isKey_of_mem_candidates candidate)]
    exact (apart m).mp (distinct m member) key candidate

theorem Visit.distinct_of_met {rest : List Visit}
    (distinct : (met ++ v :: rest).Pairwise Distinct) : ∀ m ∈ met, m.Distinct v := fun m member =>
  (List.pairwise_append.mp distinct).2.2 m member v List.mem_cons_self

theorem Gathered.written (gathered : Gathered met s) {more : List Visit}
    (stored : List.Forall₂ Visit.Stored more docs) (requests : Nat) :
    Gathered more (s.written requests docs) where
  active := gathered.active
  stored := by
    intro read loaded
    have again := Value.rereadItems?_eq_some.mp
      (File.reread_of_load (Visit.Stored.all_formed stored) loaded)
    exact forall₂_compose stored again fun _ _ _ => Visit.Stored.reread

/-- Visiting one listing more that shares no key with those met: either it is created, or the file
did not load before. -/
theorem gathered_nil (empty : s.Holds []) : Gathered [] s := by
  refine ⟨empty.active, fun docs loaded => ?_⟩
  cases empty.loaded.symm.trans loaded
  exact .nil

end Met

variable [Service δ]

namespace Visit

def run (v : Visit) : Storage δ → Except Failure Outcome × Storage δ :=
  reconcile v.clock v.now v.window v.record

def runAll : List Visit → Storage δ → List (Except Failure Outcome) × Storage δ
  | [], s => ([], s)
  | v :: rest, s =>
    let (answer, s) := v.run s
    let (answers, s) := runAll rest s
    (answer :: answers, s)

theorem runAll_length (visits : List Visit) (s : Storage δ) :
    (runAll visits s).1.length = visits.length := by
  induction visits generalizing s with
  | nil => rfl
  | cons v rest ih => simp only [runAll, List.length_cons, ih]

end Visit

section Met

variable {met : List Visit} {s : Storage δ} {docs : List Value} {v : Visit}

theorem Visit.run_distinct (holds : s.Holds docs) (stored : List.Forall₂ Visit.Stored met docs)
    (distinct : ∀ m ∈ met, m.Distinct v) : ∃ requests id,
      v.run s = (.ok .created, s.written requests
        (docs ++ [newDocument v.listing v.now id v.clock])) := by
  have unmatched := (unmatched_iff_distinct stored v).mpr distinct
  refine ⟨v.listing.candidates.length + 1,
    s.ids (s.issued + v.listing.candidates.length), ?_⟩
  rw [Visit.run, reconcile_accepted v.clock v.now v.window v.read v.keyed,
    reconcileListing_unmatched holds unmatched]
  rfl

theorem Visit.distinct_of_created (active : s.active = .file)
    (stored : ∀ docs, s.file.load = .ok docs → List.Forall₂ Visit.Stored met docs)
    (created : (v.run s).1 = .ok .created) : ∀ m ∈ met, m.Distinct v := by
  rw [run, reconcile_accepted v.clock v.now v.window v.read v.keyed] at created
  cases load : s.file.load with
  | error fault =>
    rw [reconcileListing_unreadable v.keyed active load] at created
    cases created
  | ok docs =>
    refine (unmatched_iff_distinct (stored docs load) v).mp ?_
    refine (unmatched_or_match v.listing.candidates docs).resolve_right fun ⟨m⟩ => ?_
    obtain ⟨outcome, t, done, other, -⟩ :=
      reconcileListing_matched v.clock v.now v.window ⟨active, load⟩ m
    rw [done] at created
    exact other (Except.ok.inj created)

theorem Visit.run_unreadable {fault : Store.Fault} (active : s.active = .file)
    (unreadable : s.file.load = .error fault) (v : Visit) :
    v.run s = (.error (.storage fault), s.after 1) := by
  rw [Visit.run, reconcile_accepted v.clock v.now v.window v.read v.keyed,
    reconcileListing_unreadable v.keyed active unreadable]
  rfl

theorem Visit.runAll_unreadable {fault : Store.Fault} (active : s.active = .file)
    (unreadable : s.file.load = .error fault) (visits : List Visit) :
    (runAll visits s).2.file = s.file := by
  induction visits generalizing s with
  | nil => rfl
  | cons v rest ih =>
    simp only [runAll, v.run_unreadable active unreadable]
    exact ih (s := s.after 1) active unreadable

end Met

namespace Gathered

variable {met : List Visit} {s : Storage δ} {docs : List Value} {v : Visit}

theorem visit (gathered : Gathered met s) (distinct : ∀ m ∈ met, m.Distinct v) :
    Gathered (met ++ [v]) (v.run s).2 ∧ ((v.run s).1 = .ok .created ∨
      ∃ fault, s.file.load = .error fault ∧ (v.run s).1 = .error (.storage fault)) := by
  cases load : s.file.load with
  | error fault =>
    rw [v.run_unreadable gathered.active load]
    refine ⟨⟨gathered.active, fun docs loaded => ?_⟩, .inr ⟨fault, rfl, rfl⟩⟩
    exact absurd (load.symm.trans loaded) (by simp)
  | ok docs =>
    have stored := gathered.stored docs load
    obtain ⟨requests, id, run⟩ := Visit.run_distinct ⟨gathered.active, load⟩ stored distinct
    rw [run]
    have more : List.Forall₂ Visit.Stored (met ++ [v])
        (docs ++ [newDocument v.listing v.now id v.clock]) :=
      List.rel_append stored (.cons Visit.stored_newDocument .nil)
    exact ⟨gathered.written more requests, .inl rfl⟩

theorem visits (gathered : Gathered met s) {visits : List Visit}
    (distinct : (met ++ visits).Pairwise Visit.Distinct) :
    Gathered (met ++ visits) (Visit.runAll visits s).2 ∧
      (∀ answer ∈ (Visit.runAll visits s).1,
        answer = .ok .created ∨ ∃ fault, answer = .error (.storage fault)) ∧
      ∀ docs, (Visit.runAll visits s).2.file.load = .ok docs →
        ∀ answer ∈ (Visit.runAll visits s).1, answer = .ok .created := by
  induction visits generalizing met s with
  | nil =>
    rw [List.append_nil]
    exact ⟨gathered, List.forall_mem_nil _, fun _ _ => List.forall_mem_nil _⟩
  | cons v rest ih =>
    obtain ⟨next, first⟩ := gathered.visit (Visit.distinct_of_met distinct)
    rw [List.append_cons] at distinct ⊢
    obtain ⟨last, answers, created⟩ := ih next distinct
    refine ⟨last, List.forall_mem_cons.mpr ⟨?_, answers⟩, fun docs loaded =>
      List.forall_mem_cons.mpr ⟨?_, created docs loaded⟩⟩
    · exact first.imp_right fun ⟨fault, _, failed⟩ => ⟨fault, failed⟩
    · refine first.resolve_right fun ⟨fault, unreadable, _⟩ => ?_
      -- the file would not load at the end either
      have kept := Visit.runAll_unreadable gathered.active unreadable (v :: rest)
      have same : (Visit.runAll (v :: rest) s).2.file.load = .ok docs := loaded
      rw [kept, unreadable] at same
      cases same

theorem distinct_of_created (gathered : Gathered met s) {visits : List Visit}
    (before : met.Pairwise Visit.Distinct)
    (created : ∀ answer ∈ (Visit.runAll visits s).1, answer = .ok .created) :
    (met ++ visits).Pairwise Visit.Distinct := by
  induction visits generalizing met s with
  | nil => rwa [List.append_nil]
  | cons v rest ih =>
    obtain ⟨first, others⟩ := List.forall_mem_cons.mp created
    -- It was created, so none of its keys found anything.
    have apart := Visit.distinct_of_created gathered.active gathered.stored first
    have next : (met ++ [v]).Pairwise Visit.Distinct :=
      List.pairwise_append.mpr ⟨before, List.pairwise_singleton _ _,
        fun m member w last => List.mem_singleton.mp last ▸ apart m member⟩
    rw [List.append_cons]
    exact ih (gathered.visit apart).1 next others

end Gathered

/-! Files that go on loading -/

def Readable (docs : List Value) : Prop :=
  ∀ doc ∈ docs, doc.Endures ∧ doc.depth < Progress.deepest

theorem Visit.Fits.stored {v : Visit} (fits : v.Fits) (id : String) :
    (newDocument v.listing v.now id v.clock).Endures ∧
      (newDocument v.listing v.now id v.clock).depth < Progress.deepest := by
  have same : newDocument v.listing v.now id v.clock =
      Collection.newDocument ⟨v.clock, id⟩ v.document := rfl
  rw [same]
  exact ⟨Collection.endures_newDocument fits.1, Collection.depth_newDocument fits.2⟩

theorem Readable.reread {docs : List Value} (readable : Readable docs) :
    ∃ read, List.Forall₂ Value.Rereads docs read ∧ Readable read := by
  induction docs with
  | nil => exact ⟨[], .nil, List.forall_mem_nil _⟩
  | cons doc rest ih =>
    obtain ⟨⟨endures, shallow⟩, readableRest⟩ := List.forall_mem_cons.mp readable
    obtain ⟨other, read, enduresOther⟩ := endures.next
    obtain ⟨others, readRest, readableOthers⟩ := ih readableRest
    have depth : other.depth = doc.depth := Value.depth_reread doc other read
    exact ⟨other :: others, .cons read readRest,
      List.forall_mem_cons.mpr ⟨⟨enduresOther, depth ▸ shallow⟩, readableOthers⟩⟩

theorem Readable.load {docs : List Value} (readable : Readable docs)
    (formed : ∀ doc ∈ docs, doc.WellFormed) (file : Store.File) :
    ∃ read, (file.store docs).load = .ok read ∧ List.Forall₂ Value.Rereads docs read ∧
      Readable read := by
  obtain ⟨read, again, readableRead⟩ := readable.reread
  have shallow : Value.itemsDepth read < Progress.deepest :=
    Value.itemsDepth_lt (by decide) fun doc member => (readableRead doc member).2
  have loaded := File.load_store_reread file formed (Value.rereadItems?_eq_some.mpr again)
  rw [if_pos shallow] at loaded
  exact ⟨read, loaded, again, readableRead⟩

theorem Visit.runAll_loads {visits met : List Visit} {s : Storage δ} {docs : List Value}
    (holds : s.Holds docs) (stored : List.Forall₂ Stored met docs) (readable : Readable docs)
    (distinct : (met ++ visits).Pairwise Distinct) (fits : ∀ v ∈ visits, v.Fits) :
    ∃ after, (runAll visits s).2.file.load = .ok after := by
  induction visits generalizing met s docs with
  | nil => exact ⟨docs, holds.loaded⟩
  | cons v rest ih =>
    obtain ⟨fitsHere, fitsRest⟩ := List.forall_mem_cons.mp fits
    obtain ⟨requests, id, run⟩ := run_distinct holds stored (distinct_of_met distinct)
    have more : List.Forall₂ Stored (met ++ [v])
        (docs ++ [newDocument v.listing v.now id v.clock]) :=
      List.rel_append stored (.cons stored_newDocument .nil)
    have readableMore : Readable (docs ++ [newDocument v.listing v.now id v.clock]) :=
      List.forall_mem_append.mpr ⟨readable, List.forall_mem_singleton.mpr (fitsHere.stored id)⟩
    obtain ⟨read, loaded, again, readableRead⟩ :=
      readableMore.load (Stored.all_formed more) s.file
    -- The next visit meets what was read, not what was written.
    have storedRead := forall₂_compose more again fun _ _ _ => Stored.reread
    rw [List.append_cons] at distinct
    simp only [runAll, run]
    exact ih (s := s.written requests _) ⟨holds.active, loaded⟩ storedRead readableRead distinct
      fitsRest

/-- Records whose listings share no key, texts of one instant counting as the same, are reconciled
with an empty collection without a merge: every record is created, unless the file does not load
any more. As long as it loads it holds one document for each record, and it loads if the documents
of the listings can be read back. -/
theorem distinct_records_created (visits : List Visit) (distinct : visits.Pairwise Visit.Distinct)
    (s : Storage δ) (empty : s.Holds []) :
    let run := Visit.runAll visits s
    (∀ answer ∈ run.1, answer = .ok .created ∨ ∃ fault, answer = .error (.storage fault)) ∧
    (∀ docs, run.2.file.load = .ok docs →
      run.1 = List.replicate visits.length (.ok .created) ∧
        List.Forall₂ Visit.Stored visits docs) ∧
    ((∀ v ∈ visits, v.Fits) → ∃ docs, run.2.file.load = .ok docs) := by
  obtain ⟨gathered, answers, created⟩ := (gathered_nil empty).visits distinct
  refine ⟨answers, fun docs loaded => ⟨?_, gathered.stored docs loaded⟩, fun fits => ?_⟩
  · exact List.eq_replicate_iff.mpr ⟨Visit.runAll_length visits s, created docs loaded⟩
  · exact Visit.runAll_loads empty .nil (List.forall_mem_nil _) distinct fits

theorem created_records_distinct (visits : List Visit) (s : Storage δ) (empty : s.Holds [])
    (created : ∀ answer ∈ (Visit.runAll visits s).1, answer = .ok .created) :
    visits.Pairwise Visit.Distinct :=
  (gathered_nil empty).distinct_of_created List.Pairwise.nil created

def titled (title platform : String) : Value :=
  .object [("source", .object [("platform", .text platform)]), ("title", .text title)]

def titledListing (title platform : String) : Listing :=
  Listing.assemble title "" ⟨platform, none⟩ fun name _ =>
    Members.get? name (Document.membersOf (titled title platform))

theorem titled_formed (title platform : String) : (titled title platform).WellFormed :=
  have names : Text.Before "source" "title" := by decide
  ⟨List.pairwise_pair.mpr names, ⟨List.pairwise_singleton _ _, trivial, trivial⟩, trivial, trivial⟩

def here : Visit := ⟨⟨5, 0⟩, ⟨5, 0⟩, .standard, titled "HackX" "MLH", titledListing "HackX" "MLH",
  rfl, by decide, titled_formed _ _⟩

def there : Visit := ⟨⟨6, 0⟩, ⟨6, 0⟩, .standard, titled "HackX" "Devpost",
  titledListing "HackX" "Devpost", rfl, by decide, titled_formed _ _⟩

/-- Two titles that are texts of one instant. -/
def day : Visit := ⟨⟨5, 0⟩, ⟨5, 0⟩, .standard, titled "2026-01-01" "MLH",
  titledListing "2026-01-01" "MLH", rfl, by decide, titled_formed _ _⟩

def midnight : Visit := ⟨⟨5, 0⟩, ⟨5, 0⟩, .standard, titled "2026-01-01T00:00:00Z" "MLH",
  titledListing "2026-01-01T00:00:00Z" "MLH", rfl, by decide, titled_formed _ _⟩

theorem distinct_records_created_platforms :
    [here, there].Pairwise Visit.Distinct ∧ (∀ v ∈ [here, there], v.Fits) ∧
      ∃ docs, (Visit.runAll [here, there] bareShelf).2.file.load = .ok docs ∧
        (Visit.runAll [here, there] bareShelf).1 = [.ok .created, .ok .created] ∧
        docs.length = 2 := by
  have apart : here.Distinct there := by
    intro shares
    have platforms : ¬ Listing.SameText "MLH" "Devpost" := by decide +kernel
    cases shares with
    | @identity j k first =>
      have nothing : here.listing.origin.identity? = none := by decide
      cases nothing.symm.trans first
    | @address u v first =>
      have nothing : Listing.solid? here.listing.externalUrl = none := by decide
      cases nothing.symm.trans first
    | @title t u p q _ _ atFirst atSecond _ same =>
      rw [← (Listing.solid?_eq_some.mp atFirst).1, ← (Listing.solid?_eq_some.mp atSecond).1] at same
      exact platforms same
  have distinct : [here, there].Pairwise Visit.Distinct := List.pairwise_pair.mpr apart
  have fits : ∀ v ∈ [here, there], v.Fits := by
    intro v member
    rcases List.mem_pair.mp member with rfl | rfl <;> exact ⟨.of_steady rfl, by decide⟩
  obtain ⟨-, created, loads⟩ := distinct_records_created [here, there] distinct bareShelf ⟨rfl, rfl⟩
  obtain ⟨docs, loaded⟩ := loads fits
  obtain ⟨answers, stored⟩ := created docs loaded
  exact ⟨distinct, fits, docs, loaded, answers, stored.length_eq.symm⟩

theorem dated_titles_merge :
    bareShelf.Holds [] ∧
      ¬ day.listing.SharesKey (· = ·) midnight.listing ∧
      (Visit.runAll [day, midnight] bareShelf).1 ≠ [.ok .created, .ok .created] := by
  refine ⟨⟨rfl, rfl⟩, ?_, fun both => ?_⟩
  · intro shares
    cases shares with
    | @identity j k first =>
      have nothing : day.listing.origin.identity? = none := by decide
      cases nothing.symm.trans first
    | @address u v first =>
      have nothing : Listing.solid? day.listing.externalUrl = none := by decide
      cases nothing.symm.trans first
    | @title t u p q first second _ _ titles =>
      have differ : day.listing.title ≠ midnight.listing.title := by decide
      exact differ ((Listing.solid?_eq_some.mp first).1.trans
        (titles.trans (Listing.solid?_eq_some.mp second).1.symm))
  · have distinct := created_records_distinct [day, midnight] bareShelf ⟨rfl, rfl⟩
      (by rw [both]; simp)
    have same : Listing.SameText "2026-01-01" "2026-01-01T00:00:00Z" := by decide +kernel
    have platform : Listing.SameText "MLH" "MLH" := Query.equal_refl (.text "MLH")
    exact List.rel_of_pairwise_cons distinct List.mem_cons_self
      (.title (by decide) (by decide) (by decide) (by decide) same platform)

end Catalog.Sync
