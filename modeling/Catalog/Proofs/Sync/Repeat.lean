import Catalog.Proofs.Store.Places
import Catalog.Proofs.Sync.Pass

/-!
A batch reconciled twice. After a first pass that wrote every record, and a sweep, a second pass
within the freshness window finds every record in the document that shows it, and writes nothing.
-/
namespace Catalog.Sync

open Json Store

variable {δ : Type} [Service δ] {now later wall : Time.Instant} {window : Window}
  {done : List Listing} {s : Storage δ} {docs : List Value} {record : Value} {listing : Listing}

/-- A listing that was written is current while its confirmation is fresh. -/
theorem Settled.reconcile (settled : Settled now done docs) (holds : s.Holds docs)
    (read : Listing.ofValue record = .ok listing) (keyed : listing.candidates ≠ [])
    (written : listing ∈ done) (valid : now.Valid) (low : 0 ≤ now.date.year)
    (high : now.date.year ≤ 9999) (fresh : later.since now.toMillis ≤ window.nanos)
    (clock : Time.Instant) : ∃ requests,
      reconcile clock later window record s = (restingAnswer record, s.after requests) := by
  cases keys : listing.candidates with
  | nil => exact absurd keys keyed
  | cons key weaker =>
    obtain ⟨doc, found, shows⟩ := settled.found listing written key weaker keys
    have selected : Query.selects key doc = true := List.find?_some found
    have there := List.mem_of_find?_eq_some found
    rcases unmatched_or_match listing.candidates docs with unmatched | ⟨⟨m⟩⟩
    · have passed := unmatched key (keys ▸ List.mem_cons_self) doc there
      rw [selected] at passed
      cases passed
    · have same : m.doc = doc := by
        have foundToo := m.found
        rw [m.key_of_selects keys there selected, found] at foundToo
        exact (Option.some.inj foundToo).symm
      have current := shows.current valid low high fresh
      rw [← same] at current
      refine ⟨m.before.length + 1, ?_⟩
      rw [reconcile_accepted _ _ window read keyed, reconcileListing_current holds m current]
      simp only [restingAnswer, read, List.isEmpty_iff, keyed, if_false]
      rfl

/-- A second pass finds every listing current. -/
theorem Settled.pass (settled : Settled now done docs) (holds : s.Holds docs) (valid : now.Valid)
    (low : 0 ≤ now.date.year) (high : now.date.year ≤ 9999)
    (fresh : later.since now.toMillis ≤ window.nanos) {records : List Value}
    (written : ∀ l ∈ accepted records, l.candidates ≠ [] → l ∈ done)
    (clock : Nat → Time.Instant) : ∃ requests,
      pass clock later window records s = (records.map restingAnswer, s.after requests) := by
  induction records generalizing s clock with
  | nil => exact ⟨0, rfl⟩
  | cons record rest ih =>
    have step : ∃ requests, Sync.reconcile (clock 0) later window record s =
        (restingAnswer record, s.after requests) := by
      by_cases keyed : ∃ l, Listing.ofValue record = .ok l ∧ l.candidates ≠ []
      · obtain ⟨listing, read, some_key⟩ := keyed
        have first : listing ∈ accepted (record :: rest) :=
          accepted_cons_ok read rest ▸ List.mem_cons_self
        exact settled.reconcile holds read some_key (written listing first some_key) valid low high
          fresh (clock 0)
      · exact ⟨0, reconcile_resting (unkeyed_of_not keyed) _ _ _ _⟩
    have writtenRest := fun l member => written l ((accepted_subset record rest).subset member)
    obtain ⟨here, resting⟩ := step
    obtain ⟨there, passed⟩ := ih (holds.after here) writtenRest fun n => clock (n + 1)
    refine ⟨here + there, ?_⟩
    rw [pass_cons]
    simp only [resting, passed, Storage.after_after, List.map_cons]

/-- A batch reconciled at one time and swept at that time is found again within the freshness
window: a second pass gives every record that was written no further change and every other record
its failure again, and leaves the file as it is. The stamps of the first pass must be readable,
which those of years with four digits are, the significant fields must read back from the file as
they were written, and the file must load. -/
theorem second_pass_rests (t₁ t₂ : Time.Instant) (window : Window) (records : List Value)
    (s : Storage δ) (docs : List Value) (clock₁ clock₂ : Nat → Time.Instant) (clock : Time.Instant)
    (valid : t₁.Valid) (low : 0 ≤ t₁.date.year) (high : t₁.date.year ≤ 9999)
    (holds : s.Holds docs) (assigned : Assigned docs) (known : ∀ n, IsIdentity (s.ids n))
    (batch : Batch t₁ [] records)
    (wrote : ∀ answer ∈ (pass clock₁ t₁ window records s).1, answer ≠ .ok .skipped)
    (readable : ∃ stored, (sweep clock t₁ (pass clock₁ t₁ window records s).2).2.file.load = .ok stored)
    (fresh : t₂.since t₁.toMillis ≤ window.nanos) :
    let first := pass clock₁ t₁ window records s
    let swept := (sweep clock t₁ first.2).2
    let second := pass clock₂ t₂ window records swept
    second.1 = first.1.map again ∧ second.2.file = swept.file := by
  have start : Ready t₁ [] s := by
    refine ⟨holds.active, known, fun stored loaded => ?_⟩
    rw [holds.loaded] at loaded
    cases loaded
    exact ⟨File.wellFormed_of_load holds.loaded, assigned.identified,
      assigned.distinct.imp .inl, fun _ none => nomatch none⟩
  obtain ⟨⟨done, ready, steady, -, written⟩, answers⟩ :=
    start.pass (fun _ none => nomatch none) batch clock₁ wrote
  obtain ⟨stored, loaded⟩ := readable
  have swept := ready.sweep steady clock
  obtain ⟨requests, rests⟩ := (swept.settled stored loaded).pass ⟨swept.active, loaded⟩ valid low
    high fresh written clock₂
  have before : ∃ stored, (pass clock₁ t₁ window records s).2.file.load = .ok stored := by
    cases load : (pass clock₁ t₁ window records s).2.file.load with
    | ok stored => exact ⟨stored, rfl⟩
    | error fault =>
      rw [sweep_unreadable clock t₁ ready.active load] at loaded
      exact ⟨stored, load.symm.trans loaded⟩
  obtain ⟨stored, loadedFirst⟩ := before
  simp only [rests, answers stored loadedFirst]
  exact ⟨trivial, rfl⟩

/-! One record over an empty collection -/

section Single

variable (now wall : Time.Instant) (read : Listing.ofValue record = .ok listing)
  (keyed : listing.candidates ≠ []) (formed : record.WellFormed)

theorem bareShelf_holds : bareShelf.Holds [] := ⟨rfl, rfl⟩

theorem assigned_nil : Assigned [] := ⟨fun _ none => (nomatch none), List.Pairwise.nil⟩

/-- What the only record of a batch is stored as. -/
def soleDocument (listing : Listing) (now wall : Time.Instant) : Value :=
  newDocument listing now (Storage.identity listing.candidates.length) wall

include read keyed in
theorem pass_single (window : Window) : pass (fun _ => wall) now window [record] bareShelf =
    ([.ok .created], bareShelf.written (listing.candidates.length + 1)
      [soleDocument listing now wall]) := by
  have unmatched : Unmatched listing.candidates [] := fun _ _ _ none => nomatch none
  have started := reconcile_accepted wall now window read keyed bareShelf
  rw [reconcileListing_unmatched bareShelf_holds unmatched] at started
  simp only [pass, started]
  exact Prod.ext rfl (congrArg (fun n => bareShelf.written (listing.candidates.length + 1)
    [newDocument listing now (Storage.identity n) wall]) (Nat.zero_add _))

include read formed in
theorem soleDocument_formed : ∀ doc ∈ [soleDocument listing now wall], doc.WellFormed := by
  intro doc member
  rw [List.mem_singleton.mp member]
  exact wellFormed_newDocument (Listing.wellFormed_toDocument formed read now)

/-- Does the document, read again, load and pass the test without having expired? -/
def standsAs (now : Time.Instant) (test : Value → Bool) (doc : Value) : Bool :=
  (Value.rereadItems? [doc]).any fun read =>
    match read with
    | [e] => decide (Value.itemsDepth [e] < Progress.deepest) &&
      !Query.selects (expired now) e && test e
    | _ => false

include read formed in
theorem sweep_single (requests : Nat) (test : Value → Bool)
    (stands : standsAs now test (soleDocument listing now wall) = true) :
    let first := bareShelf.written requests [soleDocument listing now wall]
    ∃ e, test e = true ∧ (first.after 1).Holds [e] ∧ (sweep wall now first).2 = first.after 1 := by
  have text := File.documents?_textOf (soleDocument_formed now wall read formed)
  unfold standsAs at stands
  cases anew : Value.rereadItems? [soleDocument listing now wall] with
  | none => simp [anew] at stands
  | some items =>
    rw [anew] at stands text
    simp only [Option.any_some] at stands
    split at stands
    · rename_i e
      simp only [Bool.and_eq_true, decide_eq_true_eq, Bool.not_eq_true'] at stands
      obtain ⟨⟨shallow, active⟩, passes⟩ := stands
      rw [Option.bind_some, if_pos shallow] at text
      have holds : (bareShelf.written requests [soleDocument listing now wall]).Holds [e] :=
        ⟨rfl, by simp only [Storage.written, File.load, File.store, Disk.Content.read, text]⟩
      have none_expired : [e].countP (Query.selects (expired now)) = 0 := by simp [active]
      exact ⟨e, passes, holds.after 1, by rw [sweep_run wall now holds, if_pos none_expired]⟩
    · cases stands

end Single

/-! A batch over a filled collection -/

/-- A listing that is about to be renewed. -/
def faded : Value := .object [("external_url", .text "u"), ("id", .text "0a")]

/-- A listing whose end has passed. -/
def past : Value :=
  .object [("dates", .object [("end_date", .text "1970-01-01T00:00:01Z")]), ("id", .text "0b"),
    ("is_active", .bool true)]

def fadedShelf : Storage := .fileOnly (File.store ⟨"shelf.json", .missing⟩ [faded, past])

def closedDay : Value := .object [("external_url", .text "v"), ("title", .text "Closed day")]

def closedListing : Listing :=
  Listing.assemble "Closed day" "v" {} fun name _ => Members.get? name (Document.membersOf closedDay)

/-- A record for the listing that is there, one that is no record, and a new one. -/
def threeRecords : List Value := [sighting, .null, closedDay]

theorem steady_of_texts (now : Time.Instant) (texts : ∀ path ∈ significantFields,
    (Document.resolve (listing.toDocument ⟨0, 0⟩) path).all (fun v => v.text?.isSome) = true) :
    Steady now listing := by
  intro path significant v found
  have isText := texts path significant
  rw [resolve_significant listing now ⟨0, 0⟩ significant] at found
  rw [found] at isText
  cases v with
  | text s => rfl
  | null | bool | number | array | object => exact absurd isText (by simp [Value.text?])

theorem faded_formed : ∀ doc ∈ [faded, past], doc.WellFormed := by
  have order : Text.Before "external_url" "id" ∧ Text.Before "dates" "id" ∧
      Text.Before "dates" "is_active" ∧ Text.Before "id" "is_active" := by decide
  simp [faded, past, Value.WellFormed, Value.MembersWellFormed, Members.Sorted, order]

theorem fadedShelf_holds : fadedShelf.Holds [faded, past] := by
  have shallow : Value.itemsDepth [faded, past] < Progress.deepest :=
    Value.itemsDepth_lt (by decide)
      (List.forall_mem_cons.mpr ⟨by decide, List.forall_mem_singleton.mpr (by decide)⟩)
  exact Storage.holds_store faded_formed (by decide) shallow _

theorem faded_assigned : Assigned [faded, past] where
  identified := by
    have known : IsIdentity "0a" ∧ IsIdentity "0b" := by decide
    exact List.forall_mem_cons.mpr
      ⟨⟨_, rfl, known.1⟩, List.forall_mem_singleton.mpr ⟨_, rfl, known.2⟩⟩
  distinct := List.pairwise_pair.mpr (by decide)

theorem closedDay_read : Listing.ofValue closedDay = .ok closedListing := rfl

theorem closedDay_formed : closedDay.WellFormed := ⟨by decide, trivial, trivial, trivial⟩

theorem batch_threeRecords : Batch ⟨5, 0⟩ [] threeRecords := by
  have members : accepted threeRecords = [sighted, closedListing] := rfl
  refine ⟨?_, ?_, ?_, fun _ _ _ none => nomatch none⟩
  · exact List.forall_mem_cons.mpr ⟨sighting_formed, List.forall_mem_cons.mpr
      ⟨trivial, List.forall_mem_singleton.mpr closedDay_formed⟩⟩
  · rw [members]
    exact List.forall_mem_cons.mpr ⟨steady_of_texts _ (by decide),
      List.forall_mem_singleton.mpr (steady_of_texts _ (by decide))⟩
  · rw [members]
    exact List.pairwise_pair.mpr ⟨by decide +kernel, by decide +kernel⟩

/-- The two documents after the first record. -/
def renewed : List Value := [rewritten faded sighted ⟨5, 0⟩ ⟨9, 0⟩, past]

/-- The documents after the last record. -/
def joined : List Value :=
  renewed ++ [newDocument closedListing ⟨5, 0⟩ (Storage.identity 3) ⟨9, 0⟩]

/-- The first record is outdated, the last one new, and one listing has expired by then. -/
theorem found_threeRecords :
    needsUpdate faded (sighted.toDocument ⟨5, 0⟩) ⟨5, 0⟩ .standard = true ∧
    (∀ key ∈ closedListing.candidates, ∀ doc ∈ renewed, Query.selects key doc = false) ∧
    joined.countP (Query.selects (expired ⟨5, 0⟩)) = 1 := by
  decide +kernel

/-- All that is written on the way reads back as it was written. -/
theorem plain_threeRecords : ∀ docs ∈ [renewed, joined, joined.map (swept ⟨9, 0⟩ ⟨5, 0⟩)],
    Value.numberlessItems docs = true ∧ Value.itemsDepth docs < Progress.deepest := by
  decide +kernel

theorem renewed_formed : ∀ doc ∈ renewed, doc.WellFormed := by
  obtain ⟨first, second⟩ := List.forall_mem_cons.mp faded_formed
  have listed := Listing.wellFormed_toDocument sighting_formed rfl ⟨5, 0⟩
  exact List.forall_mem_cons.mpr ⟨wellFormed_rewritten first listed, second⟩

theorem joined_formed : ∀ doc ∈ joined, doc.WellFormed := by
  have listed := Listing.wellFormed_toDocument closedDay_formed rfl ⟨5, 0⟩
  exact List.forall_mem_append.mpr
    ⟨renewed_formed, List.forall_mem_singleton.mpr (wellFormed_newDocument listed)⟩

theorem reconcile_sighting : reconcile ⟨9, 0⟩ ⟨5, 0⟩ .standard sighting fadedShelf =
    (.ok .updated, fadedShelf.written 2 renewed) := by
  let m : Match sighted.candidates [faded, past] :=
    ⟨[], [Query.Filter.eq Field.externalUrl (.text "u")], [], [], faded, [past], rfl, rfl,
      unmatched_nil _, by decide, fun _ none => nomatch none⟩
  have addressed : m.Addressed "0a" := ⟨rfl, by decide, fun _ none => nomatch none⟩
  have ran := reconcile_accepted ⟨9, 0⟩ ⟨5, 0⟩ .standard sighting_read (by decide)
    fadedShelf
  rw [reconcileListing_outdated fadedShelf_holds m addressed found_threeRecords.1] at ran
  exact ran

theorem renewed_holds : (fadedShelf.written 2 renewed).Holds renewed := by
  obtain ⟨without, shallow⟩ := plain_threeRecords renewed (by simp)
  exact Storage.holds_written renewed_formed without shallow rfl 2

theorem reconcile_closedDay :
    reconcile ⟨9, 0⟩ ⟨5, 0⟩ .standard closedDay (fadedShelf.written 2 renewed) =
      (.ok .created, (fadedShelf.written 2 renewed).written 2 joined) := by
  have ran := reconcile_accepted ⟨9, 0⟩ ⟨5, 0⟩ .standard closedDay_read (by decide)
    (fadedShelf.written 2 renewed)
  rw [reconcileListing_unmatched renewed_holds found_threeRecords.2.1] at ran
  exact ran

theorem pass_cons_of {clock : Nat → Time.Instant} {rest : List Value} {t u : Storage δ}
    {first : Except Failure Outcome} {others : List (Except Failure Outcome)}
    (ran : reconcile (clock 0) now window record s = (first, t))
    (ranOthers : pass (fun n => clock (n + 1)) now window rest t = (others, u)) :
    pass clock now window (record :: rest) s = (first :: others, u) := by
  rw [pass_cons, ran]
  simp only [ranOthers]

/-- What is not an object is no record. -/
theorem reconcile_null : ∃ mismatch, ∀ s : Storage,
    reconcile ⟨9, 0⟩ ⟨5, 0⟩ .standard .null s = (.error (.malformed mismatch), s) := by
  obtain ⟨mismatch, refused⟩ : ∃ mismatch, Listing.ofValue .null = .error mismatch := ⟨_, rfl⟩
  refine ⟨mismatch, fun s => ?_⟩
  rw [reconcile, reconcileBy, refused]

theorem pass_threeRecords : ∃ mismatch,
    pass (fun _ => ⟨9, 0⟩) ⟨5, 0⟩ .standard threeRecords fadedShelf =
      ([.ok .updated, .error (.malformed mismatch), .ok .created],
        (fadedShelf.written 2 renewed).written 2 joined) := by
  obtain ⟨mismatch, refused⟩ := reconcile_null
  exact ⟨mismatch, pass_cons_of reconcile_sighting
    (pass_cons_of (refused _) (pass_cons_of reconcile_closedDay rfl))⟩

theorem sweep_threeRecords :
    let first := (fadedShelf.written 2 renewed).written 2 joined
    let swept := first.written 1 (joined.map (swept ⟨9, 0⟩ ⟨5, 0⟩))
    sweep ⟨9, 0⟩ ⟨5, 0⟩ first = (.ok 1, swept) ∧ ∃ docs, swept.file.load = .ok docs := by
  intro first after
  obtain ⟨without, shallow⟩ := plain_threeRecords joined (by simp)
  have holds : first.Holds joined := Storage.holds_written joined_formed without shallow rfl 2
  have one := found_threeRecords.2.2
  have ran := sweep_run ⟨9, 0⟩ ⟨5, 0⟩ holds
  rw [if_neg (by rw [one]; decide), one] at ran
  have formed : ∀ doc ∈ joined.map (swept ⟨9, 0⟩ ⟨5, 0⟩), doc.WellFormed := by
    intro doc member
    obtain ⟨before, held, rfl⟩ := List.mem_map.mp member
    exact wellFormed_swept (joined_formed before held)
  obtain ⟨withoutAfter, shallowAfter⟩ := plain_threeRecords _ (List.mem_of_getLast? rfl)
  have still : after.Holds _ := Storage.holds_written formed withoutAfter shallowAfter rfl 1
  exact ⟨ran, _, still.loaded⟩

/-- One record is found, one fails, one is new, and the sweep finds one listing expired; then all
rest. -/
theorem second_pass_rests_threeRecords :
    fadedShelf.Holds [faded, past] ∧ Assigned [faded, past] ∧ Batch ⟨5, 0⟩ [] threeRecords ∧
    ∃ mismatch,
      let first := pass (fun _ => ⟨9, 0⟩) ⟨5, 0⟩ .standard threeRecords fadedShelf
      let swept := sweep ⟨9, 0⟩ ⟨5, 0⟩ first.2
      let second := pass (fun _ => ⟨70, 0⟩) ⟨65, 0⟩ .standard threeRecords swept.2
      first.1 = [.ok .updated, .error (.malformed mismatch), .ok .created] ∧ swept.1 = .ok 1 ∧
        second.1 = [.ok .skipped, .error (.malformed mismatch), .ok .skipped] ∧
        second.2.file = swept.2.file := by
  obtain ⟨mismatch, passed⟩ := pass_threeRecords
  obtain ⟨ran, readable⟩ := sweep_threeRecords
  have rests := second_pass_rests ⟨5, 0⟩ ⟨65, 0⟩ .standard threeRecords fadedShelf [faded, past]
    (fun _ => ⟨9, 0⟩) (fun _ => ⟨70, 0⟩) ⟨9, 0⟩ ⟨by decide, fun leap => absurd leap (by decide)⟩
    (by decide) (by decide) fadedShelf_holds faded_assigned isIdentity_identity batch_threeRecords
  simp only [passed, ran] at rests
  obtain ⟨resting, same⟩ := rests (by simp) readable (by decide)
  refine ⟨fadedShelf_holds, faded_assigned, batch_threeRecords, mismatch, ?_⟩
  simp only [passed, ran]
  exact ⟨trivial, trivial, resting, same⟩

/-! What the conditions keep out -/

/-- A record that is new to an empty collection and, at the same time again, not at rest. -/
def Recurs (now wall : Time.Instant) (record : Value) : Prop :=
  let first := pass (fun _ => wall) now .standard [record] bareShelf
  let swept := (sweep wall now first.2).2
  let second := pass (fun _ => wall) now .standard [record] swept
  now.Valid ∧ record.WellFormed ∧ (accepted [record]).Pairwise (Separate now) ∧
    first.1 = [.ok .created] ∧ now.since now.toMillis ≤ Window.standard.nanos ∧
    second.1 ≠ first.1.map again

/-- Is the document found by the only key of the listing, and in need of an update? -/
def isOutdated (listing : Listing) (now : Time.Instant) (doc : Value) : Bool :=
  let id := Storage.identity listing.candidates.length
  match listing.candidates with
  | [key] => Query.selects key doc && Collection.hasId id doc &&
    Query.selects (Query.Filter.byId id) doc &&
    needsUpdate doc (listing.toDocument now) now .standard
  | _ => false

theorem pass_outdated {doc : Value} (read : Listing.ofValue record = .ok listing)
    (holds : s.Holds [doc]) (outdated : isOutdated listing now doc = true) :
    (pass (fun _ => wall) now .standard [record] s).1 = [.ok .updated] := by
  unfold isOutdated at outdated
  split at outdated
  · rename_i key only
    simp only [Bool.and_eq_true, Collection.hasId, beq_iff_eq] at outdated
    obtain ⟨⟨⟨selected, has⟩, byId⟩, needed⟩ := outdated
    have keyed : listing.candidates ≠ [] := by simp [only]
    let m : Match listing.candidates [doc] := ⟨[], key, [], [], doc, [], only, rfl,
      unmatched_nil _, selected, fun _ none => nomatch none⟩
    have addressed : m.Addressed (Storage.identity listing.candidates.length) :=
      ⟨has, byId, fun _ none => nomatch none⟩
    have started := reconcile_accepted wall now .standard read keyed s
    rw [reconcileListing_outdated holds m addressed needed] at started
    simp only [pass, started]
    rfl
  · cases outdated

theorem recurs_of_outdated (read : Listing.ofValue record = .ok listing)
    (formed : record.WellFormed) (valid : now.Valid)
    (fresh : now.since now.toMillis ≤ Window.standard.nanos)
    (stands : standsAs now (isOutdated listing now) (soleDocument listing now wall) = true)
    (keyed : listing.candidates ≠ []) : Recurs now wall record := by
  have first := pass_single now wall read keyed .standard
  obtain ⟨e, outdated, holds, swept⟩ := sweep_single now wall read formed _ _ stands
  refine ⟨valid, formed, ?_, by rw [first], fresh, ?_⟩
  · rw [accepted_cons_ok read]
    exact List.pairwise_singleton _ _
  · rw [first, swept, pass_outdated read holds outdated]
    intro same
    cases same

theorem recurs_of_unreadable (read : Listing.ofValue record = .ok listing)
    (formed : record.WellFormed) (valid : now.Valid)
    (fresh : now.since now.toMillis ≤ Window.standard.nanos)
    (buried : ((Value.rereadItems? [soleDocument listing now wall]).all fun items =>
      !decide (Value.itemsDepth items < Progress.deepest)) = true)
    (keyed : listing.candidates ≠ []) : Recurs now wall record := by
  have first := pass_single now wall read keyed .standard
  have docFormed := soleDocument_formed now wall read formed
  obtain ⟨fault, unreadable⟩ : ∃ fault, (bareShelf.written (listing.candidates.length + 1)
      [soleDocument listing now wall]).file.load = .error fault := by
    have text := File.documents?_textOf docFormed
    have nothing : File.documents? (File.textOf [soleDocument listing now wall]) = none := by
      rw [text]
      cases anew : Value.rereadItems? [soleDocument listing now wall] with
      | none => rfl
      | some items =>
        rw [anew] at buried
        exact if_neg (by simpa using buried)
    refine ⟨.corrupt bareShelf.file.path (Complaint.ofText (File.textOf
      [soleDocument listing now wall])), ?_⟩
    simp only [Storage.written, File.load, File.store, Disk.Content.read, nothing]
  refine ⟨valid, formed, ?_, by rw [first], fresh, ?_⟩
  · rw [accepted_cons_ok read]
    exact List.pairwise_singleton _ _
  · rw [first, sweep_unreadable wall now rfl unreadable]
    have still : reconcileListing wall now .standard listing ((bareShelf.written
        (listing.candidates.length + 1) [soleDocument listing now wall]).after 1) =
          (.error fault, _) := reconcileListing_unreadable keyed rfl unreadable
    simp only [pass, reconcile_accepted wall now .standard read keyed, still]
    intro same
    cases same

/-- In the first hour of the year 10000 stamps begin with a sign. -/
def yearTenThousand : Time.Instant := ⟨253402304399, 0⟩

/-- A listing whose description is a double that reads back as one of its neighbours. -/
def drifting : Value := .object [("description", .number (.double ⟨false,
    2273964366196789913306247879011683921915304772986227538171597967343509898681979305539420298624353618083446784⟩)),
  ("external_url", .text "u")]

def driftingListing : Listing :=
  Listing.assemble "" "u" {} fun name _ => Members.get? name (Document.membersOf drifting)

/-- Arrays around nothing. -/
def nested : Nat → Value
  | 0 => .null
  | n + 1 => .array [nested n]

/-- A listing whose description nests deeper than a file is read. -/
def deep : Value := .object [("description", nested 130), ("external_url", .text "u")]

def deepListing : Listing :=
  Listing.assemble "" "u" {} fun name _ => Members.get? name (Document.membersOf deep)

theorem wellFormed_nested (n : Nat) : (nested n).WellFormed := by
  induction n with
  | zero => trivial
  | succ n ih => exact ⟨ih, trivial⟩

/-- A second pass is not at rest where a stamp cannot be read, where a significant field reads back
as another number, or where the file does not load any more. -/
theorem second_pass_recurs : bareShelf.Holds [] ∧ Assigned [] ∧
    Recurs yearTenThousand ⟨1792324800, 0⟩ sighting ∧ Recurs ⟨5, 0⟩ ⟨5, 0⟩ drifting ∧
    Recurs ⟨5, 0⟩ ⟨5, 0⟩ deep := by
  refine ⟨bareShelf_holds, assigned_nil, ?_, ?_, ?_⟩
  · exact recurs_of_outdated sighting_read sighting_formed
      ⟨by decide, fun leap => absurd leap (by decide)⟩ (by decide) (by decide +kernel) (by decide)
  · have formed : drifting.WellFormed := ⟨by decide, trivial, trivial, trivial⟩
    exact recurs_of_outdated (show Listing.ofValue drifting = .ok driftingListing from rfl) formed
      ⟨by decide, fun leap => absurd leap (by decide)⟩ (by decide) (by decide +kernel) (by decide)
  · have formed : deep.WellFormed := ⟨by decide, wellFormed_nested 130, trivial, trivial⟩
    exact recurs_of_unreadable (show Listing.ofValue deep = .ok deepListing from rfl) formed
      ⟨by decide, fun leap => absurd leap (by decide)⟩ (by decide) (by decide +kernel) (by decide)

end Catalog.Sync
