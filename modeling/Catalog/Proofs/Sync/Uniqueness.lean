import Catalog.Proofs.Lists
import Catalog.Proofs.Store.File
import Catalog.Proofs.Sync.Origin

/-!
The key by platform and identity stays unique, whatever records are reconciled and whenever the
sweep runs. An update may reach a document through its address or its title, but only where the
surer key selects nothing, so no document is moved onto the key of another.
-/
namespace Catalog.Sync

open Json Store

/-- No two documents claim one listing of one platform. -/
def UniqueKeys (docs : List Value) : Prop := docs.Pairwise fun a b => ¬ SameKey a b

/-- A document as reconciling and sweeping leave it, while a number of identities have been handed
out. -/
structure Kept (ids : Nat → String) (issued : Nat) (doc : Value) : Prop where
  formed : doc.WellFormed
  origin : ∃ origin, ComesFrom origin doc
  identified : ∃ n < issued, Document.id? doc = some (ids n)

/-- The documents differ in identity and in their key at the source. -/
structure Apart (a b : Value) : Prop where
  id : Document.id? a ≠ Document.id? b
  key : ¬ SameKey a b

/-- Documents as reconciling and sweeping leave them. -/
structure Orderly (ids : Nat → String) (issued : Nat) (docs : List Value) : Prop where
  kept : ∀ doc ∈ docs, Kept ids issued doc
  apart : docs.Pairwise Apart

variable {ids : Nat → String}

/-- The second document is as well formed as the first and has its identity and origin. -/
structure Carries (doc other : Value) : Prop where
  formed : doc.WellFormed → other.WellFormed
  id : Document.id? other = Document.id? doc
  origin : ∀ origin, ComesFrom origin doc → ComesFrom origin other

theorem Carries.reread {doc other : Value} (read : doc.Rereads other) : Carries doc other where
  formed := fun formed => Value.reread?_wellFormed doc other formed read
  id := Document.id?_reread read
  origin := fun _ from_origin => from_origin.reread read

theorem Carries.swept (clock now : Time.Instant) (doc : Value) :
    Carries doc (swept clock now doc) where
  formed := wellFormed_swept
  id := id?_swept
  origin := fun _ from_origin => from_origin.swept clock now

theorem Carries.kept {issued : Nat} {doc other : Value} (carries : Carries doc other)
    (kept : Kept ids issued doc) : Kept ids issued other where
  formed := carries.formed kept.formed
  origin := kept.origin.imp fun origin => carries.origin origin
  identified := kept.identified.imp fun _ has => ⟨has.1, carries.id.trans has.2⟩

theorem Carries.apart {issued : Nat} {a b a' b' : Value} (first : Carries a a')
    (second : Carries b b') (keptFirst : Kept ids issued a) (keptSecond : Kept ids issued b)
    (apart : Apart a b) : Apart a' b' where
  id := by
    rw [first.id, second.id]
    exact apart.id
  key := by
    obtain ⟨o, ofFirst⟩ := keptFirst.origin
    obtain ⟨p, ofSecond⟩ := keptSecond.origin
    rw [(first.origin o ofFirst).sameKey_iff (second.origin p ofSecond),
      ← ofFirst.sameKey_iff ofSecond]
    exact apart.key

namespace Orderly

variable {issued : Nat} {docs others earlier later : List Value} {doc new : Value}

theorem nil (issued : Nat) : Orderly ids issued [] := ⟨fun _ none => (nomatch none), List.Pairwise.nil⟩

theorem assigned (orderly : Orderly ids issued docs) (fresh : Fresh ids) : Assigned docs where
  identified := by
    intro doc member
    obtain ⟨n, _, has⟩ := (orderly.kept doc member).identified
    exact ⟨_, has, fresh.known n⟩
  distinct := orderly.apart.imp fun apart => apart.id

theorem unique (orderly : Orderly ids issued docs) : UniqueKeys docs :=
  orderly.apart.imp fun apart => apart.key

theorem mono {more : Nat} (orderly : Orderly ids issued docs) (up : issued ≤ more) :
    Orderly ids more docs where
  kept := by
    intro doc member
    obtain ⟨formed, origin, n, below, has⟩ := orderly.kept doc member
    exact ⟨formed, origin, n, Nat.lt_of_lt_of_le below up, has⟩
  apart := orderly.apart

theorem carry (orderly : Orderly ids issued docs) (carried : List.Forall₂ Carries docs others) :
    Orderly ids issued others := by
  obtain ⟨kept, apart⟩ := orderly
  induction carried with
  | nil => exact nil issued
  | @cons doc other docs others carries rest ih =>
    obtain ⟨first, keptRest⟩ := List.forall_mem_cons.mp kept
    obtain ⟨fromFirst, apartRest⟩ := List.pairwise_cons.mp apart
    obtain ⟨keptOthers, apartOthers⟩ := ih keptRest apartRest
    refine ⟨List.forall_mem_cons.mpr ⟨carries.kept first, keptOthers⟩,
      List.pairwise_cons.mpr ⟨fun e member => ?_, apartOthers⟩⟩
    obtain ⟨d, before, carries'⟩ := exists_of_mem_forall₂ rest member
    exact carries.apart carries' first (keptRest d before) (fromFirst d before)

theorem append (orderly : Orderly ids issued docs) (kept : Kept ids issued new)
    (apart : ∀ d ∈ docs, Apart d new) : Orderly ids issued (docs ++ [new]) where
  kept := by
    intro d member
    rcases List.mem_append.mp member with old | last
    · exact orderly.kept d old
    · exact List.mem_singleton.mp last ▸ kept
  apart := by
    refine List.pairwise_append.mpr ⟨orderly.apart, List.pairwise_singleton _ _, ?_⟩
    intro d member e last
    exact List.mem_singleton.mp last ▸ apart d member

/-- A document may be replaced by another that is apart from all the others. -/
theorem replace (orderly : Orderly ids issued (earlier ++ doc :: later)) (kept : Kept ids issued new)
    (apart : ∀ d ∈ earlier ++ later, Apart d new ∧ Apart new d) :
    Orderly ids issued (earlier ++ new :: later) where
  kept := forall_mem_replaced orderly.kept kept
  apart := pairwise_replaced orderly.apart
    (fun d member => (apart d (List.mem_append_left _ member)).1)
    fun d member => (apart d (List.mem_append_right _ member)).2

end Orderly

/-! Writing a listing -/

section Writing

variable {issued : Nat} {docs : List Value} {listing : Listing} {clock now : Time.Instant}

/-- A document on the key of a listing is found by the surest key of the listing. -/
theorem candidate_of_sameKey {origin : Listing.Origin} {doc other : Value}
    (from_origin : ComesFrom origin doc) (from_listing : ComesFrom listing.origin other)
    (same : SameKey doc other) : ∃ key weaker, listing.candidates = key :: weaker ∧
      Query.selects key doc = true ∧ ∀ {o : Listing.Origin} {d : Value}, ComesFrom o d →
        Query.selects key d = true → SameKey d other := by
  obtain ⟨_, ⟨platform, id⟩, _, given, _⟩ := (from_origin.sameKey_iff from_listing).mp same
  obtain ⟨weaker, leads⟩ := Listing.candidates_of_identity given
  have selects := fun {o : Listing.Origin} {d : Value} (source : ComesFrom o d) =>
    source.selects_identityKey given from_listing
  exact ⟨_, weaker, leads, (selects from_origin).mpr same, fun source => (selects source).mp⟩

theorem Orderly.create (orderly : Orderly ids issued docs) (fresh : Fresh ids)
    (formed : (listing.toDocument now).WellFormed)
    (unmatched : Unmatched listing.candidates docs) {number : Nat} (later : issued ≤ number) :
    Orderly ids (number + 1) (docs ++ [newDocument listing now (ids number) clock]) := by
  have source := ComesFrom.newDocument listing now clock (ids number)
  have raised := orderly.mono (Nat.le_succ_of_le later)
  refine raised.append ⟨wellFormed_newDocument formed, ⟨_, source⟩, number, Nat.lt_succ_self _,
    id?_newDocument⟩ fun d member => ⟨?_, fun same => ?_⟩
  · obtain ⟨n, below, has⟩ := (orderly.kept d member).identified
    rw [has, id?_newDocument]
    intro same
    have numbers := fresh.injective (Option.some.inj same)
    omega
  · obtain ⟨origin, from_origin⟩ := (orderly.kept d member).origin
    obtain ⟨key, weaker, leads, selects, -⟩ := candidate_of_sameKey from_origin source same
    have passed := unmatched key (leads ▸ List.mem_cons_self) d member
    rw [selects] at passed
    cases passed

/-- A listing is written onto a document that no other document shares the listing's key with. -/
theorem Orderly.update (orderly : Orderly ids issued docs)
    (formed : (listing.toDocument now).WellFormed) (m : Match listing.candidates docs) :
    Orderly ids issued (m.earlier ++ rewritten m.doc listing now clock :: m.later) := by
  have source := ComesFrom.rewritten listing now clock m.doc
  have kept := orderly.kept m.doc m.mem
  have placed : Orderly ids issued (m.earlier ++ m.doc :: m.later) := m.docs_eq ▸ orderly
  have id := (rewritten_keeps m.doc listing now clock).1
  obtain ⟨origin, from_origin⟩ := kept.origin
  obtain ⟨front, back, across⟩ := List.pairwise_append.mp placed.apart
  have others : ∀ d ∈ m.earlier ++ m.later, d ∈ docs ∧
      Document.id? d ≠ Document.id? m.doc ∧ ¬ SameKey d m.doc := by
    have whole : ∀ d ∈ m.earlier ++ m.doc :: m.later, d ∈ docs := m.docs_eq ▸ fun _ there => there
    intro d member
    rcases List.mem_append.mp member with earlier | later
    · have apart := across d earlier m.doc List.mem_cons_self
      exact ⟨whole d (List.mem_append_left _ earlier), apart.id, apart.key⟩
    · have there := List.mem_append_right m.earlier (List.mem_cons_of_mem m.doc later)
      have apart := (List.pairwise_cons.mp back).1 d later
      obtain ⟨o, from_o⟩ := (placed.kept d there).origin
      exact ⟨whole d there, apart.id.symm, fun same => apart.key (from_o.sameKey_symm from_origin same)⟩
  have unshared : ∀ d ∈ m.earlier ++ m.later, ¬ SameKey d (rewritten m.doc listing now clock) := by
    intro d member same
    obtain ⟨there, _, differ⟩ := others d member
    obtain ⟨o, from_o⟩ := (orderly.kept d there).origin
    obtain ⟨key, weaker, leads, selects, onKey⟩ := candidate_of_sameKey from_o source same
    have matched : SameKey m.doc (rewritten m.doc listing now clock) :=
      onKey from_origin (m.key_of_selects leads there selects ▸ m.selected)
    exact differ (from_o.sameKey_trans source from_origin same
      (from_origin.sameKey_symm source matched))
  refine placed.replace ⟨wellFormed_rewritten kept.formed formed, ⟨_, source⟩,
    kept.identified.imp fun _ has => ⟨has.1, id.trans has.2⟩⟩ fun d member => ?_
  obtain ⟨there, differ, _⟩ := others d member
  obtain ⟨o, from_o⟩ := (orderly.kept d there).origin
  have free := unshared d member
  exact ⟨⟨id ▸ differ, free⟩, id ▸ differ.symm,
    fun same => free (source.sameKey_symm from_o same)⟩

end Writing

end Catalog.Sync
