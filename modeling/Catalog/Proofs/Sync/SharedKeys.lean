import Catalog.Proofs.Sync.Origin

/-!
Listings that share a key: an address, platform and identity, or title and platform, none of them
blank. A candidate key of one listing selects the document of another exactly if the two share a
key, where texts that read as dates count as the same if they name the same instant.
-/
namespace Catalog.Listing

open Json

/-- Texts that queries do not tell apart. -/
def SameText (a b : String) : Prop := Query.equal (.text a) (.text b) = true

instance (a b : String) : Decidable (SameText a b) := inferInstanceAs (Decidable (_ = true))

/-- Both listings have one of the keys in full, and its parts are the same. -/
inductive SharesKey (same : String → String → Prop) (l m : Listing) : Prop
  | identity {j k : String × String} (first : l.origin.identity? = some j)
    (second : m.origin.identity? = some k) (platforms : same j.1 k.1) (ids : same j.2 k.2)
  | address {u v : String} (first : solid? l.externalUrl = some u)
    (second : solid? m.externalUrl = some v) (urls : same u v)
  | title {t u p q : String} (first : solid? l.title = some t) (second : solid? m.title = some u)
    (atFirst : solid? l.origin.platform = some p) (atSecond : solid? m.origin.platform = some q)
    (titles : same t u) (platforms : same p q)

def addressKey (url : String) : Query.Filter := [Query.Filter.eq Field.externalUrl (.text url)]

def titleKey (title platform : String) : Query.Filter :=
  [Query.Filter.eq Field.title (.text title), Query.Filter.eq Field.platform (.text platform)]

variable {l m : Listing} {now : Time.Instant}

theorem mem_candidates_iff {key : Query.Filter} :
    key ∈ l.candidates ↔
      (∃ j, l.origin.identity? = some j ∧ key = identityKey j.1 j.2) ∨
      (∃ u, solid? l.externalUrl = some u ∧ key = addressKey u) ∨
      ∃ t p, solid? l.title = some t ∧ solid? l.origin.platform = some p ∧ key = titleKey t p := by
  simp only [candidates, List.mem_append, or_assoc, Origin.identity?]
  refine or_congr ?_ (or_congr ?_ ?_)
  · cases solid? l.origin.platform <;> cases l.origin.sourceId.bind solid? <;> simp [identityKey]
  · cases solid? l.externalUrl <;> simp [addressKey]
  · cases solid? l.title <;> cases solid? l.origin.platform <;> simp [titleKey]

theorem solid?_of_same {s t : String} (same : SameText s t) (solid : Text.isBlankText t = false) :
    solid? s = some s :=
  solid?_eq_some.mpr ⟨rfl, (Query.isBlankText_of_equal same).trans solid⟩

theorem selects_addressKey {u : String} :
    Query.selects (addressKey u) (m.toDocument now) = true ↔ SameText m.externalUrl u := by
  simp [addressKey, Query.Filter.eq, Query.selects, Query.clauseHolds, resolve_externalUrl,
    Query.holds_text, SameText]

theorem selects_titleKey {t p : String} :
    Query.selects (titleKey t p) (m.toDocument now) = true ↔
      SameText m.title t ∧ SameText m.origin.platform p := by
  simp [titleKey, Query.Filter.eq, Query.selects, Query.clauseHolds, resolve_title,
    resolve_platform, Query.holds_text, SameText]

/-- Some key of a listing selects the document of another exactly if they share a key. -/
theorem selected_iff_sharesKey (l m : Listing) (now : Time.Instant) :
    (∃ key ∈ l.candidates, Query.selects key (m.toDocument now) = true) ↔
      m.SharesKey SameText l := by
  have origins := fun {platform id : String}
      (given : l.origin.identity? = some (platform, id)) =>
    (Sync.ComesFrom.listing m now).selects_identityKey given (Sync.ComesFrom.listing l now)
  have keys := (Sync.ComesFrom.listing m now).sameKey_iff (Sync.ComesFrom.listing l now)
  constructor
  · rintro ⟨key, member, selects⟩
    rcases mem_candidates_iff.mp member with ⟨⟨platform, id⟩, given, rfl⟩ | ⟨u, given, rfl⟩ |
      ⟨t, p, title, platform, rfl⟩
    · obtain ⟨j, k, first, second, platforms, ids⟩ := keys.mp ((origins given).mp selects)
      exact .identity first second platforms ids
    · have same := selects_addressKey.mp selects
      exact .address (solid?_of_same same (solid?_eq_some.mp given).2) given same
    · obtain ⟨titles, platforms⟩ := selects_titleKey.mp selects
      exact .title (solid?_of_same titles (solid?_eq_some.mp title).2) title
        (solid?_of_same platforms (solid?_eq_some.mp platform).2) platform titles platforms
  · intro shares
    cases shares with
    | @identity j k first second platforms ids =>
      exact ⟨identityKey k.1 k.2, mem_candidates_iff.mpr (.inl ⟨k, second, rfl⟩),
        (origins second).mpr (keys.mpr ⟨j, k, first, second, platforms, ids⟩)⟩
    | @address u v first second urls =>
      refine ⟨addressKey v, mem_candidates_iff.mpr (.inr (.inl ⟨v, second, rfl⟩)), ?_⟩
      rw [selects_addressKey, (solid?_eq_some.mp first).1]
      exact urls
    | @title t u p q first second atFirst atSecond titles platforms =>
      refine ⟨titleKey u q, mem_candidates_iff.mpr (.inr (.inr ⟨u, q, second, atSecond, rfl⟩)), ?_⟩
      rw [selects_titleKey, (solid?_eq_some.mp first).1, (solid?_eq_some.mp atFirst).1]
      exact ⟨titles, platforms⟩

end Catalog.Listing
