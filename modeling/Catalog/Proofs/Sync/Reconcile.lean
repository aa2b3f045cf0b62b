import Catalog.Proofs.Query.Clauses
import Catalog.Proofs.Store.Changes
import Catalog.Proofs.Store.Identity
import Catalog.Proofs.Store.Session
import Catalog.Sync.Reconcile

/-!
What reconciling a record does to the documents of the file. The first key that selects any
document decides, by the first document it selects: there is nothing to write, or that document is
written again in its place. Without a match one new document is appended.
-/
namespace Catalog.Sync

open Json Store

/-- No key selects a document. -/
def Unmatched (keys : List Query.Filter) (docs : List Value) : Prop :=
  ∀ key ∈ keys, ∀ doc ∈ docs, Query.selects key doc = false

theorem unmatched_nil (docs : List Value) : Unmatched [] docs := by
  intro key none_left
  cases none_left

/-- The first key that selects any of the documents, and the first document it selects. -/
structure Match (keys : List Query.Filter) (docs : List Value) where
  before : List Query.Filter
  key : Query.Filter
  after : List Query.Filter
  earlier : List Value
  doc : Value
  later : List Value
  keys_eq : keys = before ++ key :: after
  docs_eq : docs = earlier ++ doc :: later
  unmatched : Unmatched before docs
  selected : Query.selects key doc = true
  first : ∀ d ∈ earlier, Query.selects key d = false

theorem Match.mem {keys : List Query.Filter} {docs : List Value} (m : Match keys docs) :
    m.doc ∈ docs := by
  obtain ⟨_, _, _, earlier, doc, later, _, docs_eq, _, _, _⟩ := m
  subst docs_eq
  simp

theorem Match.key_mem {keys : List Query.Filter} {docs : List Value} (m : Match keys docs) :
    m.key ∈ keys := by
  obtain ⟨before, key, after, _, _, _, keys_eq, _, _, _, _⟩ := m
  subst keys_eq
  simp

theorem Match.mem_of_earlier {keys : List Query.Filter} {docs : List Value} (m : Match keys docs) :
    ∀ d ∈ m.earlier, d ∈ docs := by
  intro d member
  rw [m.docs_eq]
  exact List.mem_append_left _ member

theorem Match.found {keys : List Query.Filter} {docs : List Value} (m : Match keys docs) :
    docs.find? (Query.selects m.key) = some m.doc :=
  List.find?_eq_some_iff_append.mpr
    ⟨m.selected, m.earlier, m.later, m.docs_eq, by simpa using m.first⟩

/-- The surest key decides as soon as it selects any document. -/
theorem Match.key_of_selects {keys weaker : List Query.Filter} {key : Query.Filter}
    {docs : List Value} (m : Match keys docs) (leads : keys = key :: weaker) {doc : Value}
    (member : doc ∈ docs) (selects : Query.selects key doc = true) : m.key = key := by
  have split : key :: weaker = m.before ++ m.key :: m.after := leads.symm.trans m.keys_eq
  cases before : m.before with
  | nil =>
    rw [before, List.nil_append] at split
    exact (List.cons.inj split).1.symm
  | cons first more =>
    rw [before, List.cons_append] at split
    have passed := m.unmatched first (before ▸ List.mem_cons_self) doc member
    rw [← (List.cons.inj split).1, selects] at passed
    cases passed

theorem unmatched_or_match (keys : List Query.Filter) (docs : List Value) :
    Unmatched keys docs ∨ Nonempty (Match keys docs) := by
  induction keys with
  | nil => exact .inl (unmatched_nil docs)
  | cons key keys ih =>
    cases found : docs.find? (Query.selects key) with
    | some doc =>
      obtain ⟨selected, earlier, later, docs_eq, first⟩ := List.find?_eq_some_iff_append.mp found
      have passed : ∀ d ∈ earlier, Query.selects key d = false := by simpa using first
      exact .inr ⟨⟨[], key, keys, earlier, doc, later, rfl, docs_eq, unmatched_nil docs,
        selected, passed⟩⟩
    | none =>
      have passed : ∀ d ∈ docs, Query.selects key d = false := by
        simpa using List.find?_eq_none.mp found
      have both : ∀ {others : List Query.Filter}, Unmatched others docs →
          Unmatched (key :: others) docs := by
        intro others unmatched k member d present
        rcases List.mem_cons.mp member with here | later
        · exact here ▸ passed d present
        · exact unmatched k later d present
      cases ih with
      | inl unmatched => exact .inl (both unmatched)
      | inr matched =>
        obtain ⟨m⟩ := matched
        have keys_eq : key :: keys = (key :: m.before) ++ m.key :: m.after :=
          congrArg (key :: ·) m.keys_eq
        exact .inr ⟨⟨key :: m.before, m.key, m.after, m.earlier, m.doc, m.later, keys_eq, m.docs_eq,
          both m.unmatched, m.selected, m.first⟩⟩

section Steps

variable {δ : Type} [Service δ] {s : Storage δ} {docs : List Value} {keys : List Query.Filter}

/-- Keys are tried in their order, on documents that trying does not change. -/
theorem findPrevious_cons (clock : Time.Instant) (key : Query.Filter) (keys : List Query.Filter)
    (holds : s.Holds docs) :
    findPreviousBy (Session.ask clock) (key :: keys) s =
      match docs.find? (Query.selects key) with
      | some doc => (.ok (some (key, doc)), s.after 1)
      | none => findPreviousBy (Session.ask clock) keys (s.after 1) := by
  have asked : Session.findOneBy (Session.ask clock) key s = _ := Session.findOne_run clock key holds
  rw [findPreviousBy, Session.bind_ok asked]
  cases docs.find? (Query.selects key) <;> rfl

theorem findPrevious_unmatched (clock : Time.Instant) (holds : s.Holds docs)
    (unmatched : Unmatched keys docs) :
    findPreviousBy (Session.ask clock) keys s = (.ok none, s.after keys.length) := by
  induction keys generalizing s with
  | nil => rfl
  | cons key keys ih =>
    have absent : docs.find? (Query.selects key) = none := by
      simpa using unmatched key List.mem_cons_self
    have rest := ih (holds.after 1) fun k member => unmatched k (List.mem_cons_of_mem _ member)
    rw [findPrevious_cons clock key keys holds, absent]
    simp only [rest, Storage.after_after, List.length_cons, Nat.add_comm]

theorem findPrevious_match (clock : Time.Instant) (holds : s.Holds docs) (m : Match keys docs) :
    findPreviousBy (Session.ask clock) keys s =
      (.ok (some (m.key, m.doc)), s.after (m.before.length + 1)) := by
  have found := m.found
  have passing : ∀ (before : List Query.Filter) (s : Storage δ), s.Holds docs →
      Unmatched before docs → findPreviousBy (Session.ask clock) (before ++ m.key :: m.after) s =
        (.ok (some (m.key, m.doc)), s.after (before.length + 1)) := by
    intro before
    induction before with
    | nil =>
      intro s holds _
      rw [List.nil_append, findPrevious_cons clock m.key m.after holds, found]
      rfl
    | cons key before ih =>
      intro s holds unmatched
      have absent : docs.find? (Query.selects key) = none := by
        simpa using unmatched key List.mem_cons_self
      have rest := ih (s.after 1) (holds.after 1)
        fun k member => unmatched k (List.mem_cons_of_mem _ member)
      rw [List.cons_append, findPrevious_cons clock key _ holds, absent]
      simp only [rest, Storage.after_after, List.length_cons, Nat.add_comm]
  have whole := passing m.before s holds m.unmatched
  rwa [← m.keys_eq] at whole

end Steps

section Outcomes

variable {δ : Type}

/-- The answer for a record that nothing is left to do for. -/
def restingAnswer (record : Value) : Except Failure Outcome :=
  match Listing.ofValue record with
  | .error mismatch => .error (.malformed mismatch)
  | .ok listing =>
    if listing.candidates.isEmpty then .error (.noCandidateKey listing.displayKey)
    else .ok .skipped

theorem unkeyed_of_not {record : Value}
    (without : ¬ ∃ l, Listing.ofValue record = .ok l ∧ l.candidates ≠ []) :
    ∀ l, Listing.ofValue record = .ok l → l.candidates = [] := by
  intro l read
  by_contra keyed
  exact without ⟨l, read, keyed⟩

theorem reconcileBy_accepted (ask : {α : Type} → Request α → Work δ α) (now : Time.Instant)
    (window : Window) {record : Value} {listing : Listing}
    (accepted : Listing.ofValue record = .ok listing) (keyed : listing.candidates ≠ [])
    (s : Storage δ) :
    reconcileBy ask now window record s =
      ((reconcileListingBy ask now window listing s).1.mapError .storage,
        (reconcileListingBy ask now window listing s).2) := by
  have some_key : listing.candidates.isEmpty = false := by simpa using keyed
  simp only [reconcileBy, accepted, some_key, Bool.false_eq_true, if_false]
  rfl

/-- A record without a key, or not readable, fails alike at all times and changes nothing. -/
theorem reconcileBy_resting (ask : {α : Type} → Request α → Work δ α) (now : Time.Instant)
    (window : Window) {record : Value}
    (unkeyed : ∀ l, Listing.ofValue record = .ok l → l.candidates = []) (s : Storage δ) :
    reconcileBy ask now window record s = (restingAnswer record, s) := by
  cases read : Listing.ofValue record with
  | error mismatch => simp only [reconcileBy, restingAnswer, read]
  | ok l =>
    simp only [reconcileBy, restingAnswer, read, unkeyed l read, List.isEmpty_nil, if_true]

variable [Service δ]

theorem reconcile_accepted (clock now : Time.Instant) (window : Window) {record : Value}
    {listing : Listing} (accepted : Listing.ofValue record = .ok listing)
    (keyed : listing.candidates ≠ []) (s : Storage δ) :
    reconcile clock now window record s =
      ((reconcileListing clock now window listing s).1.mapError .storage,
        (reconcileListing clock now window listing s).2) :=
  reconcileBy_accepted (Session.ask clock) now window accepted keyed s

/-! The three outcomes -/

variable {s : Storage δ} {docs : List Value} {clock now : Time.Instant} {window : Window}
  {listing : Listing}

theorem reconcileListing_unreadable {fault : Store.Fault} (keyed : listing.candidates ≠ [])
    (active : s.active = .file) (unreadable : s.file.load = .error fault) :
    reconcileListing clock now window listing s = (.error fault, s.after 1) := by
  cases keys : listing.candidates with
  | nil => exact absurd keys keyed
  | cons key weaker =>
    have asked := Session.ask_unreadable clock (.find key { limit := some 1 }) active rfl unreadable
    have first : findPreviousBy (Session.ask clock) (key :: weaker) s =
        (.error fault, s.after 1) := by
      rw [findPreviousBy, Session.findOneBy]
      exact Session.bind_error (Session.bind_error asked)
    rw [reconcileListing, reconcileListingBy, keys]
    exact Session.bind_error first

/-- The document that a new listing is stored as. -/
def newDocument (listing : Listing) (now : Time.Instant) (id : String) (clock : Time.Instant) :
    Value :=
  Document.touch
    (Document.set (Document.set (listing.toDocument now) Field.id (.text id)) Field.createdAt
      (Document.stampValue clock)) clock

/-- A document as it is written again for a listing. -/
def rewritten (doc : Value) (listing : Listing) (now clock : Time.Instant) : Value :=
  Document.touch (Document.merge doc (Document.membersOf (listing.toDocument now))) clock

theorem reconcileListing_unmatched (holds : s.Holds docs)
    (unmatched : Unmatched listing.candidates docs) :
    reconcileListing clock now window listing s =
      (.ok .created, s.written (listing.candidates.length + 1)
        (docs ++ [newDocument listing now
          (s.ids (s.issued + listing.candidates.length)) clock])) := by
  have searched := findPrevious_unmatched clock holds unmatched
  have passed : ∀ d ∈ docs, Query.selects [.either listing.candidates] d = false := by
    intro d member
    have none_selects := fun key present => unmatched key present d member
    simpa [Query.selects, Query.clauseHolds, Query.anySelects_eq] using none_selects
  have answered : Collection.answer
      ⟨clock, s.ids (s.after listing.candidates.length).issued⟩
      (.upsert [.either listing.candidates] (listing.toDocument now)) docs =
        .ok (⟨true, newDocument listing now
          (s.ids (s.issued + listing.candidates.length)) clock⟩,
          some (docs ++ [newDocument listing now
            (s.ids (s.issued + listing.candidates.length)) clock])) :=
    Collection.answer_upsert_new passed
  have asked := Session.ask_write clock _ (holds.after listing.candidates.length) rfl answered
  rw [reconcileListing, reconcileListingBy, Session.bind_ok searched]
  simp only [Session.bind_ok asked, Storage.written_after]
  rfl

theorem reconcileListing_current (holds : s.Holds docs) (m : Match listing.candidates docs)
    (current : needsUpdate m.doc (listing.toDocument now) now window = false) :
    reconcileListing clock now window listing s =
      (.ok .skipped, s.after (m.before.length + 1)) := by
  rw [reconcileListing, reconcileListingBy, Session.bind_ok (findPrevious_match clock holds m)]
  simp only [current]
  rfl

/-- The filter for the identity of a matched document selects it first. -/
def Match.Addressed {keys : List Query.Filter} (m : Match keys docs) (id : String) : Prop :=
  Document.id? m.doc = some id ∧ Query.selects (Query.Filter.byId id) m.doc = true ∧
    ∀ d ∈ m.earlier, Query.selects (Query.Filter.byId id) d = false

theorem Match.addressed {keys : List Query.Filter} (m : Match keys docs)
    (assigned : Assigned docs) : ∃ id, m.Addressed id := by
  have distinct : (m.earlier ++ m.doc :: m.later).Pairwise fun a b =>
      Document.id? a ≠ Document.id? b := m.docs_eq ▸ assigned.distinct
  obtain ⟨id, has, known⟩ := assigned.identified m.doc m.mem
  exact ⟨id, has, byId_first has known (fun d member => assigned.identified d (m.mem_of_earlier d member))
    fun d member => (List.pairwise_append.mp distinct).2.2 d member m.doc List.mem_cons_self⟩

theorem reconcileListing_outdated (holds : s.Holds docs) (m : Match listing.candidates docs)
    {id : String} (addressed : m.Addressed id)
    (outdated : needsUpdate m.doc (listing.toDocument now) now window = true) :
    reconcileListing clock now window listing s =
      (.ok .updated, s.written (m.before.length + 2)
        (m.earlier ++ rewritten m.doc listing now clock :: m.later)) := by
  obtain ⟨hasId, selected, passed⟩ := addressed
  have answered : Collection.answer
      ⟨clock, s.ids (s.after (m.before.length + 1)).issued⟩
      (.upsert (Query.Filter.byId id) (listing.toDocument now)) docs =
        .ok (⟨false, rewritten m.doc listing now clock⟩,
          some (m.earlier ++ rewritten m.doc listing now clock :: m.later)) :=
    Collection.answer_upsert_match m.docs_eq passed selected
  have asked := Session.ask_write clock _ (holds.after (m.before.length + 1)) rfl answered
  rw [reconcileListing, reconcileListingBy, Session.bind_ok (findPrevious_match clock holds m)]
  simp only [outdated, if_true, hasId, Session.bind_ok asked, Storage.written_after]
  rfl

/-! What writing again leaves alone -/

/-- The names that documents of listings give to their members. -/
def listingFields : List String :=
  ["title", "description", "organizer", "type", "mode", "location", "dates", "skills_required",
    "external_url", "source", "registration", "is_active"]

theorem toDocument_fields (listing : Listing) (now : Time.Instant) :
    ∀ m ∈ Document.membersOf (listing.toDocument now), m.1 ∈ listingFields := by
  intro m member
  have name := List.mem_map_of_mem (f := Prod.fst) (Members.mem_ofList member)
  cases kind : listing.kind <;> cases mode : listing.mode <;>
    simp [kind, mode, Listing.optionalMember, listingFields, Field.isActive] at name ⊢ <;> grind

theorem member?_rewritten {doc : Value} {name : String} (foreign : name ∉ listingFields)
    (other : name ≠ Field.updatedAt) :
    (rewritten doc listing now clock).member? name = doc.member? name := by
  have single : ∀ field ∈ listingFields, segments field = [field] := by decide
  have touched : (segments Field.updatedAt).head? ≠ some name := by
    have path : segments Field.updatedAt = [Field.updatedAt] := by decide
    simpa [path, eq_comm] using other
  rw [rewritten, Document.touch, Document.member?_set_of_ne touched]
  refine Document.member?_merge fun m member => .inr ?_
  have field := toDocument_fields listing now m member
  rw [single m.1 field]
  intro same
  exact foreign (Option.some.inj same ▸ field)

theorem rewritten_keeps (doc : Value) (listing : Listing) (now clock : Time.Instant) :
    Document.id? (rewritten doc listing now clock) = Document.id? doc ∧
      (rewritten doc listing now clock).member? Field.createdAt = doc.member? Field.createdAt :=
  ⟨Document.id?_eq (member?_rewritten (by decide) (by decide)),
    member?_rewritten (by decide) (by decide)⟩

end Outcomes

/-- A collection whose file is not there yet. -/
def bareShelf : Storage := .fileOnly ⟨"shelf.json", .missing⟩

/-- A record with an address and a title. -/
def sighting : Value := .object [("external_url", .text "u"), ("title", .text "Open day")]

def sighted : Listing :=
  Listing.assemble "Open day" "u" {} fun name _ =>
    Members.get? name [("external_url", .text "u"), ("title", .text "Open day")]

theorem sighting_read : Listing.ofValue sighting = .ok sighted := rfl

theorem sighting_formed : sighting.WellFormed := ⟨by decide, trivial, trivial, trivial⟩

end Catalog.Sync
