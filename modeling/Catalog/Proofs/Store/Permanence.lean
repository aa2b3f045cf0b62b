import Catalog.Proofs.Document.Reread
import Catalog.Proofs.Lists
import Catalog.Proofs.Store.Identity
import Catalog.Proofs.Store.Turns

/-!
What requests never change of a stored document: its place, its identity and the time of its
creation. The guard of a patch is on whole names, so a dotted path through an identity passes it;
as long as no patch has such a path, every document stays the record that it was.
-/
namespace Catalog.Store

open Json

variable {doc other data patch : Value} {docs others written : List Value} {moment : Moment}
  {now : Time.Instant} {turn : Turn} {file first : File}

/-- Identity and time of creation. -/
def birth (doc : Value) : Option Value × Option Value :=
  (doc.member? Field.id, doc.member? Field.createdAt)

/-- Every document is still there, in its place, with its identity and time of creation. -/
def Extends (docs later : List Value) : Prop := docs.map birth <+: later.map birth

/-- Every document has a text for its identity, and no two have the same. -/
structure Identified (docs : List Value) : Prop where
  named : ∀ doc ∈ docs, (Document.id? doc).isSome
  distinct : (docs.map Document.id?).Nodup

/-- The times of creation read back as they were written. -/
def Dated (docs : List Value) : Prop :=
  ∀ doc ∈ docs, ∀ v, doc.member? Field.createdAt = some v → v.Rereads v

/-- No path of a patch leads through an identity or a time of creation. Their own names are no
paths through them: a patch passes over these. -/
def Spares (patch : Value) : Prop :=
  ∀ m ∈ Document.membersOf patch, Field.fixed m.1 = true ∨
    (segments m.1).head? ≠ some Field.id ∧ (segments m.1).head? ≠ some Field.createdAt

theorem birth_patched (spares : Spares patch) :
    birth (Collection.patched now patch doc) = birth doc := by
  have stamp : (segments Field.updatedAt).head? ≠ some Field.id ∧
      (segments Field.updatedAt).head? ≠ some Field.createdAt := by decide
  have id : (Document.merge doc (Document.membersOf patch)).member? Field.id = doc.member? Field.id :=
    Document.member?_merge fun m member => (spares m member).imp_right And.left
  have createdAt : (Document.merge doc (Document.membersOf patch)).member? Field.createdAt =
      doc.member? Field.createdAt :=
    Document.member?_merge fun m member => (spares m member).imp_right And.right
  simp only [birth, Collection.patched, Document.touch, Document.member?_set_of_ne stamp.1,
    Document.member?_set_of_ne stamp.2, id, createdAt]

theorem birth_newDocument : birth (Collection.newDocument moment data) =
    (some (.text moment.fresh), some (Document.stampValue moment.now)) := by
  have apart : (segments Field.updatedAt).head? ≠ some Field.id ∧
      (segments Field.updatedAt).head? ≠ some Field.createdAt ∧
      (segments Field.createdAt).head? ≠ some Field.id := by decide
  have single : segments Field.id = [Field.id] ∧ segments Field.createdAt = [Field.createdAt] := by
    decide
  have held : ∀ {name} (doc value : Value), segments name = [name] →
      (Document.set doc name value).member? name = some value := by
    intro name doc value path
    rw [← Document.select_one, ← path]
    exact Document.resolve_set_self
  simp only [birth, Collection.newDocument, Document.touch, Document.member?_set_of_ne apart.1,
    Document.member?_set_of_ne apart.2.1, Document.member?_set_of_ne apart.2.2,
    held _ _ single.1, held _ _ single.2]

theorem birth_reread (named : (Document.id? doc).isSome)
    (dated : ∀ v, doc.member? Field.createdAt = some v → v.Rereads v)
    (read : doc.Rereads other) : birth other = birth doc := by
  have single : segments Field.id = [Field.id] ∧ segments Field.createdAt = [Field.createdAt] := by
    decide
  have steady : ∀ {name}, segments name = [name] →
      (∀ v, doc.member? name = some v → v.Rereads v) → other.member? name = doc.member? name := by
    intro name path same
    rw [← Document.select_one, ← Document.select_one doc, ← path]
    apply Document.resolve_reread_of_steady read
    intro v found
    rw [Document.resolve, path, Document.select_one] at found
    exact same v found
  -- A text reads back as it was written, so an identity needs no assumption of its own.
  have id : ∀ v, doc.member? Field.id = some v → v.Rereads v := by
    intro v held
    obtain ⟨text, has⟩ := Option.isSome_iff_exists.mp named
    rw [member_id has] at held
    cases held
    rfl
  simp only [birth, steady single.1 id, steady single.2 dated]

/-! Documents of the same births -/

theorem extends_of_same (same : others.map birth = docs.map birth) : Extends docs others := by
  unfold Extends
  exact same ▸ List.prefix_refl _

theorem id?_eq_birth (doc : Value) : Document.id? doc = (birth doc).1.bind Value.text? := by
  unfold Document.id? birth
  cases doc.member? Field.id with
  | none => rfl
  | some v => cases v <;> rfl

/-- Documents that can be told apart for ever. -/
structure Lasting (docs : List Value) : Prop where
  formed : ∀ doc ∈ docs, doc.WellFormed
  identified : Identified docs
  dated : Dated docs

theorem Lasting.follow (lasting : Lasting docs) (formed : ∀ doc ∈ others, doc.WellFormed)
    (same : others.map birth = docs.map birth) : Lasting others := by
  have partner : ∀ other ∈ others, ∃ doc ∈ docs, birth doc = birth other := by
    intro other member
    exact List.mem_map.mp (same ▸ List.mem_map_of_mem member)
  have ids : others.map Document.id? = docs.map Document.id? := by
    have through := congrArg (List.map fun birth => birth.1.bind Value.text?) same
    simpa only [List.map_map, Function.comp_def, ← id?_eq_birth] using through
  refine ⟨formed, ⟨?_, ids ▸ lasting.identified.distinct⟩, ?_⟩
  · intro other member
    obtain ⟨doc, before, born⟩ := partner other member
    rw [id?_eq_birth, ← born, ← id?_eq_birth]
    exact lasting.identified.named doc before
  · intro other member v held
    obtain ⟨doc, before, born⟩ := partner other member
    exact lasting.dated doc before v ((congrArg Prod.snd born).trans held)

theorem Lasting.revised (lasting : Lasting docs) (spares : Spares patch)
    (formed : ∀ doc ∈ written, doc.WellFormed)
    (revised : List.Forall₂ (Collection.Revised now patch) docs written) :
    Lasting written ∧ Extends docs written := by
  have same : written.map birth = docs.map birth := by
    apply map_eq_of_forall₂ revised
    rintro doc - after (unchanged | patched)
    · rw [unchanged]
    · rw [patched, birth_patched spares]
  exact ⟨lasting.follow formed same, extends_of_same same⟩

theorem Lasting.appended (lasting : Lasting docs)
    (fresh : ∀ doc ∈ docs, Document.id? doc ≠ some moment.fresh)
    (formed : ∀ doc ∈ docs ++ [Collection.newDocument moment data], doc.WellFormed) :
    Lasting (docs ++ [Collection.newDocument moment data]) ∧
      Extends docs (docs ++ [Collection.newDocument moment data]) := by
  have born : birth (Collection.newDocument moment data) =
      (some (.text moment.fresh), some (Document.stampValue moment.now)) := birth_newDocument
  have id : Document.id? (Collection.newDocument moment data) = some moment.fresh := by
    rw [id?_eq_birth, born]
    rfl
  refine ⟨⟨formed, ⟨?_, ?_⟩, ?_⟩, ?_⟩
  · intro doc member
    rcases List.mem_append.mp member with old | last
    · exact lasting.identified.named doc old
    · rw [List.mem_singleton.mp last, id]
      rfl
  · rw [List.map_append, List.map_singleton, id]
    refine List.nodup_append.mpr ⟨lasting.identified.distinct, List.pairwise_singleton _ _, ?_⟩
    intro a old b last
    obtain ⟨doc, there, has⟩ := List.mem_map.mp old
    rw [← has, List.mem_singleton.mp last]
    exact fresh doc there
  · intro doc member v held
    rcases List.mem_append.mp member with old | last
    · exact lasting.dated doc old v held
    · rw [List.mem_singleton.mp last] at held
      have stamp := (congrArg Prod.snd born).symm.trans held
      cases stamp
      rfl
  · unfold Extends
    rw [List.map_append]
    exact List.prefix_append _ _

theorem Lasting.reread (lasting : Lasting docs)
    (read : List.Forall₂ Value.Rereads docs others) : Lasting others ∧ Extends docs others := by
  have same : others.map birth = docs.map birth := by
    apply map_eq_of_forall₂ read
    intro doc member other anew
    exact birth_reread (lasting.identified.named doc member) (lasting.dated doc member) anew
  refine ⟨lasting.follow ?_ same, extends_of_same same⟩
  intro other member
  obtain ⟨doc, before, anew⟩ := exists_of_mem_forall₂ read member
  exact Value.reread?_wellFormed doc other (lasting.formed doc before) anew

/-! Turns -/

namespace Turn

/-- A fresh identity is none of those in the file. -/
def Fresh (turn : Turn) (file : File) : Prop :=
  ∀ docs, file.load = .ok docs → ∀ doc ∈ docs, Document.id? doc ≠ some turn.moment.fresh

/-- What the turn merges is JSON and spares identities. -/
def Careful (turn : Turn) : Prop :=
  turn.request.Formed ∧ ∀ patch, turn.request.patch? = some patch → Spares patch

end Turn

theorem Lasting.change (lasting : Lasting docs) (careful : turn.Careful)
    (fresh : ∀ doc ∈ docs, Document.id? doc ≠ some turn.moment.fresh)
    (change : Collection.Change turn.moment turn.request docs written) :
    Lasting written ∧ Extends docs written := by
  have formed := change.wellFormed lasting.formed careful.1
  cases change with
  | append given => exact lasting.appended fresh formed
  | revise given revised => exact lasting.revised (careful.2 _ given) formed revised

/-- The file is the first one still, or holds documents that extend those of the first. -/
def Preserves (first : File) (docs : List Value) (file : File) : Prop :=
  file = first ∨ ∃ written, file = first.store written ∧ Lasting written ∧ Extends docs written

theorem Preserves.loaded (preserves : Preserves first docs file) (load : first.load = .ok docs)
    (lasting : Lasting docs) (loaded : file.load = .ok others) :
    Lasting others ∧ Extends docs others := by
  rcases preserves with same | ⟨written, held, lastingWritten, extends_⟩
  · rw [same, load] at loaded
    cases loaded
    exact ⟨lasting, List.prefix_refl _⟩
  · rw [held] at loaded
    have read := File.reread_of_load lastingWritten.formed loaded
    obtain ⟨lastingOthers, more⟩ := lastingWritten.reread (Value.rereadItems?_eq_some.mp read)
    exact ⟨lastingOthers, extends_.trans more⟩

theorem Preserves.run (preserves : Preserves first docs file) (load : first.load = .ok docs)
    (lasting : Lasting docs) (careful : turn.Careful) (fresh : turn.Fresh file) :
    Preserves first docs (turn.run file) := by
  cases held : file.load with
  | error fault =>
    rw [Turn.run_unreadable held]
    exact preserves
  | ok read =>
    obtain ⟨lastingRead, before⟩ := preserves.loaded load lasting held
    rcases Turn.run_loaded turn held with ⟨same, -⟩ | ⟨stored, change⟩
    · rw [same]
      exact preserves
    · obtain ⟨lastingWritten, more⟩ := lastingRead.change careful (fresh read held) change
      refine .inr ⟨_, ?_, lastingWritten, before.trans more⟩
      rw [stored]
      rcases preserves with same | ⟨_, other, -⟩
      · rw [same]
      · rw [other]
        rfl

theorem Preserves.runAll {turns : List Turn} (preserves : Preserves first docs file)
    (load : first.load = .ok docs) (lasting : Lasting docs)
    (careful : ∀ turn ∈ turns, turn.Careful) (fresh : Turn.Along Turn.Fresh turns file) :
    Preserves first docs (Turn.runAll turns file) := by
  -- The first file stays fixed: a later file is compared with it, not with the one before.
  induction turns generalizing file with
  | nil => exact preserves
  | cons turn turns ih =>
    obtain ⟨here, rest⟩ := List.forall_mem_cons.mp careful
    exact ih (preserves.run load lasting here fresh.1) rest fresh.2

/-- However requests go on, every record that was stored at some time stays in its place with its
identity and time of creation, and identities stay apart, as long as no patch leads through an
identity or a time of creation by a dotted path and creation times read back as they were
written. -/
theorem records_keep_identity (file : File) (docs : List Value) (earlier later : List Turn)
    (loaded : file.load = .ok docs) (identified : Identified docs) (dated : Dated docs)
    (careful : ∀ turn ∈ earlier ++ later, turn.Careful)
    (fresh : Turn.Along Turn.Fresh (earlier ++ later) file) (stored : List Value)
    (then_stored : (Turn.runAll earlier file).load = .ok stored) :
    Identified stored ∧ Extends docs stored ∧
      (Turn.runAll (earlier ++ later) file = Turn.runAll earlier file ∨
        ∃ written, Turn.runAll (earlier ++ later) file = (Turn.runAll earlier file).store written ∧
          Identified written ∧ Extends stored written) ∧
      ∀ last, (Turn.runAll (earlier ++ later) file).load = .ok last →
        Identified last ∧ Extends stored last := by
  have lasting : Lasting docs := ⟨File.wellFormed_of_load loaded, identified, dated⟩
  obtain ⟨carefulEarlier, carefulLater⟩ := List.forall_mem_append.mp careful
  obtain ⟨freshEarlier, freshLater⟩ := fresh.append
  have before : Preserves file docs (Turn.runAll earlier file) :=
    Preserves.runAll (.inl rfl) loaded lasting carefulEarlier freshEarlier
  obtain ⟨lastingStored, extends_⟩ := before.loaded loaded lasting then_stored
  have after : Preserves (Turn.runAll earlier file) stored (Turn.runAll later (Turn.runAll earlier file)) :=
    Preserves.runAll (.inl rfl) then_stored lastingStored carefulLater freshLater
  rw [Turn.runAll_append]
  refine ⟨lastingStored.identified, extends_, ?_, ?_⟩
  · exact after.imp_right fun ⟨written, held, kept, more⟩ => ⟨written, held, kept.identified, more⟩
  · intro last loadedLast
    obtain ⟨lastingLast, more⟩ := after.loaded then_stored lastingStored loadedLast
    exact ⟨lastingLast.identified, more⟩

/-- One record, with a text for its time of creation. -/
def register : File := ⟨"register.json",
  .text "[\x7b\"createdAt\": \"then\", \"id\": \"0a\", \"title\": \"Open day\"\x7d]"⟩

def registered : List Value :=
  [.object [("createdAt", .text "then"), ("id", .text "0a"), ("title", .text "Open day")]]

theorem register_load : register.load = .ok registered := rfl

theorem registered_lasting : Identified registered ∧ Dated registered := by
  refine ⟨⟨?_, ?_⟩, ?_⟩
  · intro doc member
    rw [List.mem_singleton.mp member]
    rfl
  · exact List.pairwise_singleton _ _
  · intro doc member v held
    rw [List.mem_singleton.mp member] at held
    cases held
    rfl

/-- A patch that names the identity, which is passed over, and sets a path below another member. -/
def relocate : Turn := ⟨⟨⟨5, 0⟩, "0b"⟩,
  .update "0a" (.object [("id", .text "0c"), ("source.url", .text "u")])⟩

def relocated : List Value :=
  [.object [("createdAt", .text "then"), ("id", .text "0a"),
    ("source", .object [("url", .text "u")]), ("title", .text "Open day"),
    ("updatedAt", .text "1970-01-01T00:00:05.000Z")]]

theorem relocate_load : (relocate.run register).load = .ok relocated := by
  have ran : relocate.run register = register.store relocated := rfl
  have formed : ∀ doc ∈ relocated, doc.WellFormed := by
    simp only [relocated, List.forall_mem_singleton, Value.WellFormed, Value.MembersWellFormed]
    decide
  rw [ran, File.load_store register formed rfl]
  exact if_pos (by decide)

def enroll : Turn := ⟨⟨⟨6, 0⟩, "0d"⟩, .upsert [Query.Filter.eq Field.title (.text "Closed day")]
  (.object [("title", .text "Closed day")])⟩

theorem relocate_careful : relocate.Careful := by
  refine ⟨⟨fun _ given => (nomatch given), ?_⟩, ?_⟩
  · intro patch given
    cases given
    simp only [Value.WellFormed, Value.MembersWellFormed]
    decide
  · intro patch given
    cases given
    unfold Spares
    decide

theorem enroll_careful : enroll.Careful := by
  have plain : (Value.object [("title", .text "Closed day")]).WellFormed :=
    ⟨List.pairwise_singleton _ _, trivial, trivial⟩
  refine ⟨⟨?_, ?_⟩, ?_⟩
  · intro data given
    cases given
    exact plain
  · intro patch given
    cases given
    exact plain
  · intro patch given
    cases given
    unfold Spares
    decide

theorem records_keep_identity_relocated :
    Identified relocated ∧ Extends registered relocated ∧
      (Turn.runAll ([relocate] ++ [enroll]) register = Turn.runAll [relocate] register ∨
        ∃ written, Turn.runAll ([relocate] ++ [enroll]) register =
            (Turn.runAll [relocate] register).store written ∧
          Identified written ∧ Extends relocated written) ∧
      ∀ last, (Turn.runAll ([relocate] ++ [enroll]) register).load = .ok last →
        Identified last ∧ Extends relocated last := by
  obtain ⟨identified, dated⟩ := registered_lasting
  have careful : ∀ turn ∈ [relocate] ++ [enroll], turn.Careful :=
    List.forall_mem_cons.mpr ⟨relocate_careful, List.forall_mem_singleton.mpr enroll_careful⟩
  have fresh : Turn.Along Turn.Fresh ([relocate] ++ [enroll]) register := by
    refine ⟨?_, ?_, trivial⟩
    · intro docs loaded
      cases register_load.symm.trans loaded
      decide
    · intro docs loaded
      cases relocate_load.symm.trans loaded
      decide
  exact records_keep_identity register registered [relocate] [enroll] register_load identified
    dated careful fresh relocated relocate_load

/-! What the condition on paths keeps out -/

/-- A patch with a dotted path through the identity. -/
def displace : Turn := ⟨⟨⟨5, 0⟩, "0b"⟩, .update "0a" (.object [("id.x", .bool true)])⟩

def displaced : List Value :=
  [.object [("createdAt", .text "then"), ("id", .object [("x", .bool true)]),
    ("title", .text "Open day"), ("updatedAt", .text "1970-01-01T00:00:05.000Z")]]

theorem displace_load : (displace.run register).load = .ok displaced := by
  have ran : displace.run register = register.store displaced := rfl
  have formed : ∀ doc ∈ displaced, doc.WellFormed := by
    simp only [displaced, List.forall_mem_singleton, Value.WellFormed, Value.MembersWellFormed]
    decide
  rw [ran, File.load_store register formed rfl]
  exact if_pos (by decide)

/-- The guard on whole names lets a dotted path pass, and the identity becomes an object. -/
theorem dotted_path_replaces_identity :
    register.load = .ok registered ∧ Identified registered ∧ displace.Fresh register ∧
      (displace.run register).load = .ok displaced ∧ ¬ Extends registered displaced ∧
      ¬ Identified displaced := by
  refine ⟨register_load, registered_lasting.1, ?_, displace_load, ?_, ?_⟩
  · intro docs loaded
    cases register_load.symm.trans loaded
    decide
  · intro extends_
    obtain ⟨same, -⟩ := List.cons_prefix_cons.mp extends_
    cases same
  · intro identified
    cases identified.named _ List.mem_cons_self

end Catalog.Store
