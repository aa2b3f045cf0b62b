import Catalog.Proofs.Lists
import Catalog.Proofs.Sync.Shown

/-!
Documents during one pass over a batch. Every listing of the batch that was written so far is found
by its surest key, in a document that shows it; the listings of the batch are separate, so what is
written for one of them is never found by the keys of another.
-/
namespace Catalog.Sync

open Json Store

/-- No key of one listing selects the document of the other. -/
def Separate (now : Time.Instant) (l m : Listing) : Prop :=
  (∀ key ∈ l.candidates, Query.selects key (m.toDocument now) = false) ∧
    ∀ key ∈ m.candidates, Query.selects key (l.toDocument now) = false

/-- The surest key of the listing finds a document that shows it. -/
def Found (now : Time.Instant) (docs : List Value) (listing : Listing) : Prop :=
  ∀ key weaker, listing.candidates = key :: weaker →
    ∃ doc, docs.find? (Query.selects key) = some doc ∧ Shows now listing doc

/-- Documents after some listings were written. Of two documents with one identity the later one
was written for a listing. -/
structure Settled (now : Time.Instant) (done : List Listing) (docs : List Value) : Prop where
  formed : ∀ doc ∈ docs, doc.WellFormed
  identified : ∀ doc ∈ docs, ∃ id, Document.id? doc = some id ∧ IsIdentity id
  distinct : docs.Pairwise fun a b =>
    Document.id? a ≠ Document.id? b ∨ ∃ listing ∈ done, Shows now listing b
  found : ∀ listing ∈ done, Found now docs listing

/-- The second document is found and read like the first. -/
structure Follows (now : Time.Instant) (done : List Listing) (doc other : Value) : Prop where
  formed : doc.WellFormed → other.WellFormed
  id : Document.id? other = Document.id? doc
  selects : ∀ key, Listing.IsKey key → Query.selects key other = Query.selects key doc
  shows : ∀ listing ∈ done, Shows now listing doc → Shows now listing other

variable {now clock : Time.Instant} {done : List Listing} {docs others : List Value}
  {doc other : Value} {listing : Listing}

theorem Follows.reread (steady : ∀ listing ∈ done, Steady now listing) (read : doc.Rereads other) :
    Follows now done doc other where
  formed := fun formed => Value.reread?_wellFormed doc other formed read
  id := Document.id?_reread read
  selects := fun _ isKey => selects_reread isKey read
  shows := fun listing member shows => shows.reread (steady listing member) read

theorem Follows.swept (clock : Time.Instant) (doc : Value) :
    Follows now done doc (swept clock now doc) where
  formed := wellFormed_swept
  id := id?_swept
  selects := fun _ isKey => selects_swept isKey
  shows := fun _ _ shows => shows.swept clock

theorem Settled.follow (settled : Settled now done docs)
    (followed : List.Forall₂ (Follows now done) docs others) : Settled now done others where
  formed := by
    intro e member
    obtain ⟨d, before, follows⟩ := exists_of_mem_forall₂ followed member
    exact follows.formed (settled.formed d before)
  identified := by
    intro e member
    obtain ⟨d, before, follows⟩ := exists_of_mem_forall₂ followed member
    rw [follows.id]
    exact settled.identified d before
  distinct := by
    have distinct := settled.distinct
    clear settled
    induction followed with
    | nil => exact List.Pairwise.nil
    | @cons d e docs others follows rest ih =>
      obtain ⟨fromFirst, between⟩ := List.pairwise_cons.mp distinct
      refine List.pairwise_cons.mpr ⟨fun e' member => ?_, ih between⟩
      obtain ⟨d', before, follows'⟩ := exists_of_mem_forall₂ rest member
      rw [follows.id, follows'.id]
      exact (fromFirst d' before).imp_right fun ⟨l, isDone, shows⟩ =>
        ⟨l, isDone, follows'.shows l isDone shows⟩
  found := by
    intro l isDone key weaker leads
    obtain ⟨d, found, shows⟩ := settled.found l isDone key weaker leads
    have isKey := Listing.isKey_of_mem_candidates (leads ▸ List.mem_cons_self)
    obtain ⟨e, foundToo, follows⟩ :=
      find?_of_forall₂ followed (fun _ _ follows => follows.selects key isKey) found
    exact ⟨e, foundToo, follows.shows l isDone shows⟩

/-! Writing another listing -/

theorem Settled.more (settled : Settled now done docs) (listing : Listing) :
    docs.Pairwise fun a b => Document.id? a ≠ Document.id? b ∨
      ∃ l ∈ listing :: done, Shows now l b := by
  refine settled.distinct.imp fun apart => apart.imp_right ?_
  intro ⟨l, isDone, shows⟩
  exact ⟨l, List.mem_cons_of_mem listing isDone, shows⟩

theorem Settled.create (settled : Settled now done docs)
    (formed : (listing.toDocument now).WellFormed) (unmatched : Unmatched listing.candidates docs)
    {id : String} (known : IsIdentity id) : Settled now (listing :: done)
      (docs ++ [newDocument listing now id clock]) where
  formed := by
    intro d member
    rcases List.mem_append.mp member with old | last
    · exact settled.formed d old
    · exact List.mem_singleton.mp last ▸ wellFormed_newDocument formed
  identified := by
    intro d member
    rcases List.mem_append.mp member with old | last
    · exact settled.identified d old
    · rw [List.mem_singleton.mp last]
      exact ⟨id, id?_newDocument, known⟩
  distinct := by
    have before := settled.more listing
    refine List.pairwise_append.mpr ⟨before, List.pairwise_singleton _ _, fun d _ e last => ?_⟩
    rw [List.mem_singleton.mp last]
    exact .inr ⟨listing, List.mem_cons_self, shows_newDocument⟩
  found := by
    intro l member key weaker leads
    have first : key ∈ l.candidates := leads ▸ List.mem_cons_self
    rcases List.mem_cons.mp member with here | earlier
    · subst here
      have shows : Shows now l (newDocument l now id clock) := shows_newDocument
      have absent : docs.find? (Query.selects key) = none := by
        simpa using unmatched key first
      have selected := (shows.selects (Listing.isKey_of_mem_candidates first)).trans
        (Listing.selects_own first now)
      refine ⟨_, ?_, shows⟩
      rw [List.find?_append, absent, Option.none_or, List.find?_cons, selected]
    · obtain ⟨d, found, shows⟩ := settled.found l earlier key weaker leads
      refine ⟨d, ?_, shows⟩
      rw [List.find?_append, found, Option.some_or]

section Update

variable (m : Match listing.candidates docs)

theorem Match.unshown (separate : ∀ l ∈ done, Separate now listing l) :
    ∀ l ∈ done, ¬ Shows now l m.doc := by
  intro l isDone shows
  have selects := shows.selects (Listing.isKey_of_mem_candidates m.key_mem)
  rw [m.selected, (separate l isDone).1 m.key m.key_mem] at selects
  cases selects

/-- The surest key of a listing selects no document before the one it matches. -/
theorem Match.head_passes {key : Query.Filter} {weaker : List Query.Filter}
    (leads : listing.candidates = key :: weaker) : ∀ d ∈ m.earlier, Query.selects key d = false := by
  intro d member
  cases selects : Query.selects key d with
  | false => rfl
  | true =>
    have passed := m.first d member
    rw [m.key_of_selects leads (m.mem_of_earlier d member) selects, selects] at passed
    cases passed

theorem Settled.addressed (settled : Settled now done docs)
    (separate : ∀ l ∈ done, Separate now listing l) : ∃ id, m.Addressed id := by
  have distinct : (m.earlier ++ m.doc :: m.later).Pairwise fun a b =>
      Document.id? a ≠ Document.id? b ∨ ∃ l ∈ done, Shows now l b := m.docs_eq ▸ settled.distinct
  obtain ⟨id, has, known⟩ := settled.identified m.doc m.mem
  refine ⟨id, has, byId_first has known (fun d member => settled.identified d (m.mem_of_earlier d member))
    fun d member => ?_⟩
  have apart := (List.pairwise_append.mp distinct).2.2 d member m.doc List.mem_cons_self
  exact apart.resolve_right fun ⟨l, isDone, shows⟩ => m.unshown separate l isDone shows

/-- The listing written last is found at the document written for it. -/
theorem Match.found_rewritten (clock : Time.Instant) :
    Found now (m.earlier ++ rewritten m.doc listing now clock :: m.later) listing := by
  intro key weaker leads
  have isKey := Listing.isKey_of_mem_candidates (leads ▸ List.mem_cons_self)
  have shows : Shows now listing (rewritten m.doc listing now clock) := shows_rewritten
  have absent : m.earlier.find? (Query.selects key) = none := by simpa using m.head_passes leads
  have selected := (shows.selects isKey).trans
    (Listing.selects_own (leads ▸ List.mem_cons_self) now)
  refine ⟨_, ?_, shows⟩
  rw [List.find?_append, absent, Option.none_or, List.find?_cons, selected]

/-- The other listings are found where they were: their keys pass over the document matched, before
and after it is written. -/
theorem Settled.found_beside (settled : Settled now done docs)
    (separate : ∀ l ∈ done, Separate now listing l) (clock : Time.Instant) :
    ∀ l ∈ done, Found now (m.earlier ++ rewritten m.doc listing now clock :: m.later) l := by
  intro l earlier key weaker leads
  have first : key ∈ l.candidates := leads ▸ List.mem_cons_self
  have shows : Shows now listing (rewritten m.doc listing now clock) := shows_rewritten
  obtain ⟨d, found, showsOther⟩ := settled.found l earlier key weaker leads
  refine ⟨d, ?_, showsOther⟩
  have passed := (shows.selects (Listing.isKey_of_mem_candidates first)).trans
    ((separate l earlier).2 key first)
  rw [m.docs_eq, List.find?_append] at found
  rw [List.find?_append, List.find?_cons, passed]
  cases front : m.earlier.find? (Query.selects key) with
  | some e =>
    rw [front] at found
    exact found
  | none =>
    rw [front, Option.none_or, List.find?_cons] at found
    cases old : Query.selects key m.doc with
    | false =>
      rw [old] at found
      exact found
    | true =>
      rw [old] at found
      cases found
      exact absurd showsOther (m.unshown separate l earlier)

theorem Settled.update (settled : Settled now done docs)
    (separate : ∀ l ∈ done, Separate now listing l)
    (formed : (listing.toDocument now).WellFormed) : Settled now (listing :: done)
      (m.earlier ++ rewritten m.doc listing now clock :: m.later) := by
  have placed : Settled now done (m.earlier ++ m.doc :: m.later) := m.docs_eq ▸ settled
  have shows : Shows now listing (rewritten m.doc listing now clock) := shows_rewritten
  have id := (rewritten_keeps m.doc listing now clock).1
  refine ⟨?_, ?_, ?_, ?_⟩
  · exact forall_mem_replaced placed.formed
      (wellFormed_rewritten (settled.formed m.doc m.mem) formed)
  · refine forall_mem_replaced placed.identified ?_
    rw [id]
    exact settled.identified m.doc m.mem
  · refine pairwise_replaced (placed.more listing)
      (fun _ _ => .inr ⟨listing, List.mem_cons_self, shows⟩) fun d member => ?_
    have back := (List.pairwise_append.mp (placed.more listing)).2.1
    rw [id]
    exact (List.pairwise_cons.mp back).1 d member
  · exact List.forall_mem_cons.mpr
      ⟨m.found_rewritten clock, settled.found_beside m separate clock⟩

end Update

end Catalog.Sync
