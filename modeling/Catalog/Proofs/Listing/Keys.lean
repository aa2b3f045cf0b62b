import Catalog.Proofs.Listing.Stored
import Catalog.Proofs.Query.Clauses
import Catalog.Proofs.Query.Texts

/-!
The keys of a listing. Each asks for texts at a few paths, finds the document of its own listing,
and is led by platform and identity where both are given.
-/
namespace Catalog

open Json

namespace Listing

variable {l : Listing} {now : Time.Instant}

/-- The paths that keys ask about. -/
def keyPaths : List String := [Field.platform, Field.sourceId, Field.externalUrl, Field.title]

/-- The filter asks for texts at the paths of keys. -/
def IsKey (key : Query.Filter) : Prop :=
  ∀ clause ∈ key, ∃ path ∈ keyPaths, ∃ s, clause = Query.Filter.eq path (.text s)

/-- A key selects alike what answers alike to every text at the paths of keys. -/
theorem IsKey.selects_congr {key : Query.Filter} (isKey : IsKey key) {a b : Value}
    (alike : ∀ path ∈ keyPaths, ∀ s, (Query.Condition.eq (.text s)).holds (Document.resolve a path) =
      (Query.Condition.eq (.text s)).holds (Document.resolve b path)) :
    Query.selects key a = Query.selects key b := by
  have each : ∀ clause ∈ key, Query.clauseHolds clause a = Query.clauseHolds clause b := by
    intro clause member
    obtain ⟨path, atKey, s, same⟩ := isKey clause member
    rw [same]
    exact alike path atKey s
  rw [Bool.eq_iff_iff, Query.selects_eq_all, Query.selects_eq_all, List.all_eq_true,
    List.all_eq_true]
  constructor
  · exact fun all clause member => each clause member ▸ all clause member
  · exact fun all clause member => (each clause member).symm ▸ all clause member

theorem solid?_eq_some {s t : String} :
    solid? s = some t ↔ s = t ∧ Text.isBlankText t = false := by
  unfold solid?
  cases blank : Text.isBlankText s with
  | true =>
    simp only [if_true, reduceCtorEq, false_iff, not_and]
    intro same
    simp [← same, blank]
  | false =>
    simp only [Bool.false_eq_true, if_false, Option.some.injEq]
    exact ⟨fun same => ⟨same, same ▸ blank⟩, fun both => both.1⟩

/-- Platform and identity of an origin, unless one of them is blank or missing. -/
def Origin.identity? (o : Origin) : Option (String × String) :=
  match solid? o.platform, o.sourceId.bind solid? with
  | some platform, some id => some (platform, id)
  | _, _ => none

theorem Origin.identity?_eq_some {o : Origin} {platform id : String} :
    o.identity? = some (platform, id) ↔
      o.platform = platform ∧ o.sourceId = some id ∧
        Text.isBlankText platform = false ∧ Text.isBlankText id = false := by
  have parts : o.identity? = some (platform, id) ↔
      solid? o.platform = some platform ∧ o.sourceId.bind solid? = some id := by
    unfold identity?
    split
    · rename_i p i first second
      simp [first, second]
    · rename_i missing
      simp only [reduceCtorEq, false_iff, not_and]
      exact fun first second => missing _ _ first second
  rw [parts, solid?_eq_some, Option.bind_eq_some_iff]
  simp only [solid?_eq_some]
  constructor
  · intro ⟨⟨samePlatform, solidPlatform⟩, i, given, sameId, solidId⟩
    exact ⟨samePlatform, sameId ▸ given, solidPlatform, solidId⟩
  · intro ⟨samePlatform, given, solidPlatform, solidId⟩
    exact ⟨⟨samePlatform, solidPlatform⟩, id, given, rfl, solidId⟩

/-- The key by platform and identity. -/
def identityKey (platform id : String) : Query.Filter :=
  [Query.Filter.eq Field.platform (.text platform), Query.Filter.eq Field.sourceId (.text id)]

theorem candidates_of_identity {platform id : String}
    (given : l.origin.identity? = some (platform, id)) :
    ∃ weaker, l.candidates = identityKey platform id :: weaker := by
  unfold Origin.identity? at given
  split at given
  · rename_i p i first second
    cases given
    exact ⟨_, by simp only [candidates, first, second, identityKey]; rfl⟩
  · cases given

theorem mem_candidates {key : Query.Filter} (member : key ∈ l.candidates) :
    (∃ id, l.origin.sourceId = some id ∧ key = identityKey l.origin.platform id) ∨
    key = [Query.Filter.eq Field.externalUrl (.text l.externalUrl)] ∨
    key = [Query.Filter.eq Field.title (.text l.title),
      Query.Filter.eq Field.platform (.text l.origin.platform)] := by
  simp only [candidates, List.mem_append] at member
  rcases member with (byIdentity | byAddress) | byTitle
  · split at byIdentity
    · rename_i platform id first second
      obtain ⟨i, given, solid⟩ := Option.bind_eq_some_iff.mp second
      rw [List.mem_singleton.mp byIdentity, ← (solid?_eq_some.mp first).1, ← (solid?_eq_some.mp solid).1]
      exact .inl ⟨i, given, rfl⟩
    · cases byIdentity
  · split at byAddress
    · rename_i url first
      rw [List.mem_singleton.mp byAddress, ← (solid?_eq_some.mp first).1]
      exact .inr (.inl rfl)
    · cases byAddress
  · split at byTitle
    · rename_i title platform first second
      rw [List.mem_singleton.mp byTitle, ← (solid?_eq_some.mp first).1,
        ← (solid?_eq_some.mp second).1]
      exact .inr (.inr rfl)
    · cases byTitle

theorem isKey_of_mem_candidates {key : Query.Filter} (member : key ∈ l.candidates) : IsKey key := by
  rcases mem_candidates member with ⟨id, _, same⟩ | same | same <;> subst same <;>
    simp [IsKey, identityKey, keyPaths, Query.Filter.eq]

theorem selects_own {key : Query.Filter} (member : key ∈ l.candidates) (now : Time.Instant) :
    Query.selects key (l.toDocument now) = true := by
  rcases mem_candidates member with ⟨id, given, same⟩ | same | same <;> subst same <;>
    simp [identityKey, Query.Filter.eq, Query.selects, Query.clauseHolds, resolve_platform,
      resolve_sourceId, resolve_title, resolve_externalUrl, Query.holds_text,
      Query.equal_refl, *]

end Listing

end Catalog
