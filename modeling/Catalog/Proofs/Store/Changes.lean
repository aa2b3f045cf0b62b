import Catalog.Proofs.Document.Fields
import Catalog.Proofs.Lists
import Catalog.Store.File

/-!
What requests do to documents. A request that writes appends one stamped document, or revises some
of the documents in their places; nothing else happens to a collection, however many requests there
are.
-/
namespace Catalog.Store

open Json

namespace Request

/-- What the request may merge into documents that are there. -/
def patch? : Request α → Option Value
  | .update _ patch => some patch
  | .updateMany _ patch => some patch
  | .upsert _ data => some data
  | _ => none

/-- What the request may store as a new document. -/
def data? : Request α → Option Value
  | .create data => some data
  | .upsert _ data => some data
  | _ => none

/-- Data and patches are JSON: no object in them has its members out of order. -/
def Formed (request : Request α) : Prop :=
  (∀ data, request.data? = some data → data.WellFormed) ∧
    ∀ patch, request.patch? = some patch → patch.WellFormed

end Request

namespace Collection

variable {moment : Moment} {now : Time.Instant} {request : Request α} {docs written : List Value}
  {data patch doc after : Value}

def patched (now : Time.Instant) (patch doc : Value) : Value :=
  Document.touch (Document.merge doc (Document.membersOf patch)) now

def newDocument (moment : Moment) (data : Value) : Value :=
  Document.touch (Document.set (Document.set data Field.id (.text moment.fresh)) Field.createdAt
    (Document.stampValue moment.now)) moment.now

theorem eq_patched (revised : revise now patch doc = .ok after) : after = patched now patch doc := by
  cases patch with
  | object members =>
    cases revised
    rfl
  | null | bool | number | text | array => cases revised

theorem eq_newDocument (stamped : stamped moment data = .ok doc) : doc = newDocument moment data := by
  cases data with
  | object members =>
    cases stamped
    rfl
  | null | bool | number | text | array => cases stamped

theorem reviseFirst_first {test : Value → Bool} {change : Value → Except Fault Value}
    {docs earlier later : List Value} {doc changed : Value}
    (placed : docs = earlier ++ doc :: later) (passed : ∀ d ∈ earlier, test d = false)
    (selected : test doc = true) (done : change doc = .ok changed) :
    reviseFirst test change docs =
      .ok (some (changed, earlier ++ changed :: later)) := by
  subst placed
  induction earlier with
  | nil => simp [reviseFirst, selected, done, bind, Except.bind]
  | cons d earlier ih =>
    have rest := ih fun e member => passed e (List.mem_cons_of_mem _ member)
    simp [reviseFirst, passed d List.mem_cons_self, rest, bind, Except.bind]

theorem reviseFirst_none {test : Value → Bool} {change : Value → Except Fault Value}
    {docs : List Value} (passed : ∀ d ∈ docs, test d = false) :
    reviseFirst test change docs = .ok none := by
  induction docs with
  | nil => rfl
  | cons d docs ih =>
    have rest := ih fun e member => passed e (List.mem_cons_of_mem _ member)
    simp [reviseFirst, passed d List.mem_cons_self, rest, bind, Except.bind]

theorem answer_upsert_match {filter : Query.Filter} {data : Members} {earlier later : List Value}
    (placed : docs = earlier ++ doc :: later)
    (passed : ∀ d ∈ earlier, Query.selects filter d = false)
    (selected : Query.selects filter doc = true) :
    answer moment (.upsert filter (.object data)) docs =
      .ok (⟨false, patched moment.now (.object data) doc⟩,
        some (earlier ++ patched moment.now (.object data) doc :: later)) := by
  have revised : revise moment.now (.object data) doc =
    .ok (patched moment.now (.object data) doc) := rfl
  simp only [answer, reviseFirst_first placed passed selected revised]
  rfl

theorem answer_upsert_new {filter : Query.Filter} {data : Members}
    (passed : ∀ d ∈ docs, Query.selects filter d = false) :
    answer moment (.upsert filter (.object data)) docs =
      .ok (⟨true, newDocument moment (.object data)⟩,
        some (docs ++ [newDocument moment (.object data)])) := by
  simp only [answer, reviseFirst_none passed]
  rfl

/-- Each document that passes takes the change, in its place. -/
theorem reviseAll_eq_map {test : Value → Bool} {change : Value → Except Fault Value}
    {changed : Value → Value} (total : ∀ doc, change doc = .ok (changed doc)) (docs : List Value) :
    reviseAll test change docs = .ok (docs.map fun doc => if test doc then changed doc else doc) := by
  induction docs with
  | nil => rfl
  | cons doc docs ih =>
    simp only [reviseAll, ih, total, List.map_cons]
    split <;> rfl

/-- The document was left alone or took the patch. -/
def Revised (now : Time.Instant) (patch doc after : Value) : Prop :=
  after = doc ∨ after = patched now patch doc

theorem revised_same (docs : List Value) : List.Forall₂ (Revised now patch) docs docs := by
  induction docs with
  | nil => exact .nil
  | cons doc docs ih => exact .cons (.inl rfl) ih

theorem revised_of_reviseFirst {test : Value → Bool} {changed : Value}
    (revised : reviseFirst test (revise now patch) docs = .ok (some (changed, written))) :
    List.Forall₂ (Revised now patch) docs written := by
  induction docs generalizing written with
  | nil => cases revised
  | cons doc docs ih =>
    unfold reviseFirst at revised
    split at revised
    · obtain ⟨after, new, done⟩ := bind_eq_ok.mp revised
      cases done
      exact .cons (.inr (eq_patched new)) (revised_same docs)
    · obtain ⟨found, rest, done⟩ := bind_eq_ok.mp revised
      cases found with
      | none => cases done
      | some pair =>
        cases done
        exact .cons (.inl rfl) (ih rest)

theorem revised_of_reviseAll {test : Value → Bool}
    (revised : reviseAll test (revise now patch) docs = .ok written) :
    List.Forall₂ (Revised now patch) docs written := by
  induction docs generalizing written with
  | nil =>
    cases revised
    exact .nil
  | cons doc docs ih =>
    simp only [reviseAll] at revised
    split at revised
    · obtain ⟨after, new, more⟩ := bind_eq_ok.mp revised
      obtain ⟨others, rest, done⟩ := bind_eq_ok.mp more
      cases done
      exact .cons (.inr (eq_patched new)) (ih rest)
    · obtain ⟨after, same, more⟩ := bind_eq_ok.mp revised
      obtain ⟨others, rest, done⟩ := bind_eq_ok.mp more
      cases same
      cases done
      exact .cons (.inl rfl) (ih rest)

/-- How the documents that a request stores come from those that were there. -/
inductive Change (moment : Moment) (request : Request α) (docs : List Value) : List Value → Prop
  | append {data : Value} (given : request.data? = some data) :
    Change moment request docs (docs ++ [newDocument moment data])
  | revise {patch : Value} {written : List Value} (given : request.patch? = some patch)
    (revised : List.Forall₂ (Revised moment.now patch) docs written) :
    Change moment request docs written

theorem change_of_answer {a : α} (answered : answer moment request docs = .ok (a, some written)) :
    Change moment request docs written := by
  cases request with
  | find | findById | count => cases answered
  | create data =>
    obtain ⟨doc, new, done⟩ := bind_eq_ok.mp answered
    cases done
    rw [eq_newDocument new]
    exact .append rfl
  | update id patch =>
    obtain ⟨found, first, done⟩ := bind_eq_ok.mp answered
    cases found with
    | none => cases done
    | some pair =>
      cases done
      exact .revise rfl (revised_of_reviseFirst first)
  | updateMany filter patch =>
    obtain ⟨all, revised, done⟩ := bind_eq_ok.mp answered
    simp only [Except.ok.injEq, Prod.mk.injEq] at done
    obtain ⟨-, stored⟩ := done
    split at stored
    · cases stored
    · cases stored
      exact .revise rfl (revised_of_reviseAll revised)
  | upsert filter data =>
    obtain ⟨found, first, done⟩ := bind_eq_ok.mp answered
    cases found with
    | some pair =>
      cases done
      exact .revise rfl (revised_of_reviseFirst first)
    | none =>
      obtain ⟨doc, new, done⟩ := bind_eq_ok.mp done
      cases done
      rw [eq_newDocument new]
      exact .append rfl

theorem Change.all {P : Value → Prop} (change : Change moment request docs written)
    (before : ∀ doc ∈ docs, P doc)
    (new : ∀ data, request.data? = some data → P (newDocument moment data))
    (revised : ∀ patch doc, request.patch? = some patch → P doc → P (patched moment.now patch doc)) :
    ∀ doc ∈ written, P doc := by
  cases change with
  | append given =>
    intro doc member
    rcases List.mem_append.mp member with old | last
    · exact before doc old
    · rw [List.mem_singleton.mp last]
      exact new _ given
  | revise given pairs =>
    induction pairs with
    | nil => exact fun _ none => nomatch none
    | @cons doc after docs written taken rest ih =>
      obtain ⟨first, others⟩ := List.forall_mem_cons.mp before
      refine List.forall_mem_cons.mpr ⟨?_, ih others⟩
      rcases taken with same | new
      · exact same ▸ first
      · exact new ▸ revised _ _ given first

theorem wellFormed_patched (formed : doc.WellFormed) (patchFormed : patch.WellFormed) :
    (patched now patch doc).WellFormed :=
  Document.wellFormed_touch
    (Document.wellFormed_merge formed (Document.formed_membersOf patchFormed)) now

theorem wellFormed_newDocument (formed : data.WellFormed) :
    (newDocument moment data).WellFormed := by
  have identified : (Document.set data Field.id (.text moment.fresh)).WellFormed :=
    Document.wellFormed_set formed trivial
  have stamp : (Document.stampValue moment.now).WellFormed := trivial
  exact Document.wellFormed_touch (Document.wellFormed_set identified stamp) moment.now

theorem Change.wellFormed (change : Change moment request docs written)
    (before : ∀ doc ∈ docs, doc.WellFormed) (formed : request.Formed) :
    ∀ doc ∈ written, doc.WellFormed :=
  change.all before (fun data given => wellFormed_newDocument (formed.1 data given))
    fun patch _ given held => wellFormed_patched held (formed.2 patch given)

end Collection

end Catalog.Store
