import Catalog.Proofs.Document.Reread
import Catalog.Proofs.Json.Same
import Catalog.Proofs.Sync.Sweep
import Catalog.Proofs.Sync.Written
import Catalog.Proofs.Time.Stamp
import Catalog.Sync.Freshness

/-!
What reconciling looks at in a stored document: the paths of keys, the significant fields and the
last confirmation. There a document written for a listing shows what the listing says, and it goes
on doing so when the file is read again and when the sweep runs at the same time.
-/
namespace Catalog

open Json

namespace Sync

open Store

/-- The paths at which a stored listing is found and compared again. -/
def shownPaths : List String := Listing.keyPaths ++ significantFields ++ [Field.lastUpdated]

/-- At those paths the document shows what the listing's own document does. -/
def Shows (now : Time.Instant) (listing : Listing) (doc : Value) : Prop :=
  ∀ path ∈ shownPaths, Document.resolve doc path = Document.resolve (listing.toDocument now) path

/-- The significant fields of the listing read back from a file as they are. A feed may send any
JSON in the place of a text or a date, and not every double reads back as itself. -/
def Steady (now : Time.Instant) (listing : Listing) : Prop :=
  ∀ path ∈ significantFields, ∀ v,
    Document.resolve (listing.toDocument now) path = some v → v.Rereads v

variable {now clock later : Time.Instant} {listing : Listing} {doc other : Value} {id : String}
  {key : Query.Filter}

theorem segments_shownPath {path : String} (shown : path ∈ shownPaths) :
    ∃ name ∈ Listing.presentFields, segments path = name :: (segments path).tail := by
  have each : ∀ path ∈ shownPaths, ∃ name ∈ Listing.presentFields,
      segments path = name :: (segments path).tail := by decide
  exact each path shown

theorem shows_newDocument : Shows now listing (newDocument listing now id clock) := by
  intro path shown
  obtain ⟨name, present, parts⟩ := segments_shownPath shown
  rw [Document.resolve, Document.resolve, parts]
  exact select_newDocument present _

theorem shows_rewritten : Shows now listing (rewritten doc listing now clock) := by
  intro path shown
  obtain ⟨name, present, parts⟩ := segments_shownPath shown
  rw [Document.resolve, Document.resolve, parts]
  exact select_rewritten present _

/-! Reading again -/

/-- At the paths of keys there are texts, which read back as they are. -/
theorem rereads_keyPath {path : String} (atKey : path ∈ Listing.keyPaths) {v : Value}
    (found : Document.resolve (listing.toDocument now) path = some v) : v.Rereads v := by
  simp only [Listing.keyPaths, List.mem_cons, List.not_mem_nil, or_false] at atKey
  rcases atKey with platform | id | url | title
  · rw [platform, listing.resolve_platform] at found
    cases found
    rfl
  · rw [id, listing.resolve_sourceId] at found
    obtain ⟨s, _, same⟩ := Option.map_eq_some_iff.mp found
    subst same
    rfl
  · rw [url, listing.resolve_externalUrl] at found
    cases found
    rfl
  · rw [title, listing.resolve_title] at found
    cases found
    rfl

theorem Steady.shown (steady : Steady now listing) {path : String} (shown : path ∈ shownPaths)
    {v : Value} (found : Document.resolve (listing.toDocument now) path = some v) :
    v.Rereads v := by
  rcases List.mem_append.mp shown with atKeyOrField | last
  · rcases List.mem_append.mp atKeyOrField with atKey | atField
    · exact rereads_keyPath atKey found
    · exact steady path atField v found
  · rw [List.mem_singleton.mp last, listing.resolve_lastUpdated] at found
    cases found
    rfl

theorem Shows.reread (shows_ : Shows now listing doc) (steady : Steady now listing)
    (read : doc.Rereads other) : Shows now listing other := by
  intro path shown
  refine (Document.resolve_reread_of_steady read fun v found => ?_).trans (shows_ path shown)
  exact steady.shown shown ((shows_ path shown).symm.trans found)

theorem selects_reread (isKey : Listing.IsKey key) (read : doc.Rereads other) :
    Query.selects key other = Query.selects key doc := by
  refine isKey.selects_congr fun path _ s => ?_
  have related := Document.select_reread read (segments path)
  unfold Document.resolve
  cases held : Document.select doc (segments path) <;>
    cases anew : Document.select other (segments path) <;> rw [held, anew] at related <;>
    cases related
  case some.some.some v w again => exact Query.holds_reread again s

/-! The sweep -/

/-- The sweep changes nothing at the paths of keys and the significant fields. -/
theorem resolve_swept {path : String} (compared : path ∈ Listing.keyPaths ++ significantFields) :
    Document.resolve (swept clock now doc) path = Document.resolve doc path := by
  have apart : ∀ path ∈ Listing.keyPaths ++ significantFields,
      Document.Diverge (segments Field.isActive) (segments path) ∧
      Document.Diverge (segments Field.lastUpdated) (segments path) ∧
      Document.Diverge (segments Field.updatedAt) (segments path) := by decide
  obtain ⟨activity, lastUpdated, updated⟩ := apart path compared
  exact select_swept activity lastUpdated updated

/-- A sweep at the time of the listing confirms it with the same stamp. -/
theorem Shows.swept (shows_ : Shows now listing doc) (clock : Time.Instant) :
    Shows now listing (swept clock now doc) := by
  intro path shown
  rcases List.mem_append.mp shown with compared | last
  · rw [resolve_swept compared]
    exact shows_ path shown
  · have same := shows_ path shown
    rw [List.mem_singleton.mp last] at same ⊢
    rw [listing.resolve_lastUpdated] at same ⊢
    unfold Sync.swept
    split
    · rw [Document.touch, Document.resolve_set_of_diverge (by decide), Document.resolve_set_self]
    · exact same

theorem selects_swept (isKey : Listing.IsKey key) :
    Query.selects key (swept clock now doc) = Query.selects key doc :=
  isKey.selects_congr fun path atKey s => by
    rw [resolve_swept (List.mem_append_left _ atKey)]

/-! Finding and comparing -/

theorem Shows.selects (shows_ : Shows now listing doc) (isKey : Listing.IsKey key) :
    Query.selects key doc = Query.selects key (listing.toDocument now) :=
  isKey.selects_congr fun path atKey s => by
    rw [shows_ path (List.mem_append_left _ (List.mem_append_left _ atKey))]

theorem valueChanged_self (v : Value) : valueChanged v v = false := by
  unfold valueChanged
  split
  · rename_i x y first second
    rw [first] at second
    cases second
    simp [Time.Instant.since]
  · split
    · simp
    · simp [v.same_refl]

theorem resolve_significant (listing : Listing) (now later : Time.Instant) {path : String}
    (significant : path ∈ significantFields) :
    Document.resolve (listing.toDocument now) path =
      Document.resolve (listing.toDocument later) path := by
  have steady : ∀ path ∈ significantFields, ∃ name ∈ Listing.presentFields,
      name ≠ "source" ∧ name ≠ Field.isActive ∧ segments path = name :: (segments path).tail := by
    decide
  obtain ⟨name, _, source, activity, parts⟩ := steady path significant
  rw [Document.resolve, Document.resolve, parts]
  simp only [Document.select, listing.member?_toDocument_steady now later source activity]

/-- A document that shows a listing needs no update while its confirmation is fresh. -/
theorem Shows.current (shows_ : Shows now listing doc) (valid : now.Valid)
    (low : 0 ≤ now.date.year) (high : now.date.year ≤ 9999) {window : Window}
    (fresh : later.since now.toMillis ≤ window.nanos) :
    needsUpdate doc (listing.toDocument later) later window = false := by
  have confirmed : lastConfirmed? doc = some now.toMillis := by
    have stamp : Document.resolve doc Field.lastUpdated = some (Document.stampValue now) := by
      rw [shows_ _ (by decide), listing.resolve_lastUpdated]
    simp [lastConfirmed?, stamp, Document.stampValue, Value.instant?,
      Time.Instant.parse?_stamp valid low high]
  have recent : isOlder doc later window.nanos = false := by
    simp only [isOlder, confirmed, decide_eq_false_iff_not]
    omega
  have same : (significantFields.any fun path => fieldChanged (Document.resolve doc path)
      (Document.resolve (listing.toDocument later) path)) = false := by
    refine List.any_eq_false.mpr fun path significant => ?_
    rw [shows_ path (List.mem_append_left _ (List.mem_append_right _ significant)),
      resolve_significant listing now later significant, fieldChanged, valueChanged_self]
    decide
  rw [needsUpdate, needsUpdateWithin, recent, same]
  rfl

end Sync

end Catalog
