import Catalog.Proofs.Document.Depth
import Catalog.Proofs.Sync.Expiry

/-!
Sweeps one after the other. A sweep changes just the listings that are due, and in them the activity
and the two stamps. What a sweep has deactivated a later one passes over, so two sweeps deactivate
what the later of them does alone. Only the file is written once more in between, and a number that
reads back as its neighbour moves once more.
-/
namespace Catalog

open Json

namespace Document

def holdsTrue : Value → Bool
  | .bool b => b
  | _ => false

/-- The activity is true, or an array that holds true. -/
def flagged (doc : Value) : Bool :=
  match resolve doc Field.isActive with
  | some (.array items) => items.any holdsTrue
  | some v => holdsTrue v
  | none => false

end Document

namespace Sync

open Store Document

variable {clock now t : Time.Instant} {doc other v w : Value}

/-- A listing that counts as active and ended before the millisecond of a time. -/
def due (now : Time.Instant) (doc : Value) : Bool :=
  flagged doc && (finish? doc).any (·.lt now.toMillis)

/-- A time whose stamp reads back: one in a year of four digits. -/
structure Stampable (now : Time.Instant) : Prop where
  valid : now.Valid
  low : 0 ≤ now.date.year
  high : now.date.year ≤ 9999

theorem equal_true (v : Value) : Query.equal v (.bool true) = holdsTrue v := by
  have undated : (Value.bool true).instant? = none := rfl
  cases v with
  | bool b => cases b <;> rfl
  | null | number | array | object => rfl
  | text s =>
    cases read : (Value.text s).instant? <;>
      simp [Query.equal, undated, read, Value.same, holdsTrue]

theorem holds_true (doc : Value) :
    (Query.Condition.eq (.bool true)).holds (resolve doc Field.isActive) = flagged doc := by
  unfold flagged
  cases resolve doc Field.isActive with
  | none => rfl
  | some v =>
    simp only [Query.Condition.holds, Option.getD_some, equal_true]
    cases v with
    | array items =>
      have compound : holdsTrue (.array items) = false := rfl
      simp [compound, Query.Condition.isCompound]
    | null | bool | number | text | object => simp

theorem selects_eq_due (stampable : Stampable now) (doc : Value) :
    Query.selects (expired now) doc = due now doc := by
  have ended : (Query.Condition.lt (stampValue now)).holds (resolve doc Field.endDate) =
      (finish? doc).any (·.lt now.toMillis) := by
    rw [Bool.eq_iff_iff, holds_before_stamp stampable.valid stampable.low stampable.high,
      Option.any_eq_true]
    rfl
  simp only [Query.selects, expired, Query.Filter.eq, Query.clauseHolds, holds_true, ended, due,
    Bool.and_true]

/-! One sweep -/

/-- What a sweep makes of a listing that is due. -/
structure Deactivates (clock now : Time.Instant) (doc other : Value) : Prop where
  activity : resolve other Field.isActive = some (.bool false)
  /-- The source keeps its members, or becomes an object if it was none. -/
  source : other.member? "source" = some (.object (Members.insert "last_updated" (stampValue now)
    (membersOf ((doc.member? "source").getD .null))))
  updated : resolve other Field.updatedAt = some (stampValue clock)
  others : ∀ names, Diverge (segments Field.isActive) names →
    Diverge (segments Field.lastUpdated) names → Diverge (segments Field.updatedAt) names →
      select other names = select doc names

/-- What a sweep makes of a document. -/
def Treated (clock now : Time.Instant) (doc other : Value) : Prop :=
  if due now doc then Deactivates clock now doc other else other = doc

theorem swept_of_due (stampable : Stampable now) (isDue : due now doc = true) :
    swept clock now doc = touch (set (set doc Field.isActive (.bool false)) Field.lastUpdated
      (stampValue now)) clock := by
  rw [swept, if_pos ((selects_eq_due stampable doc).trans isDue)]

theorem swept_of_not_due (stampable : Stampable now) (isDue : due now doc = false) :
    swept clock now doc = doc := by
  rw [swept, if_neg]
  rw [selects_eq_due stampable, isDue]
  exact Bool.false_ne_true

theorem member?_source_set (doc stamp : Value) :
    (set doc Field.lastUpdated stamp).member? "source" =
      some (.object (Members.insert "last_updated" stamp
        (membersOf ((doc.member? "source").getD .null)))) := by
  have path : segments Field.lastUpdated = ["source", "last_updated"] := by decide
  rw [Document.set, path, member?_put_self]
  cases doc.member? "source" <;> rfl

theorem deactivates_swept (stampable : Stampable now) (isDue : due now doc = true) :
    Deactivates clock now doc (swept clock now doc) where
  activity := by
    have updated : Diverge (segments Field.updatedAt) (segments Field.isActive) := by decide
    have lastUpdated : Diverge (segments Field.lastUpdated) (segments Field.isActive) := by decide
    rw [swept_of_due stampable isDue, touch, resolve_set_of_diverge updated,
      resolve_set_of_diverge lastUpdated, resolve_set_self]
  source := by
    rw [swept_of_due stampable isDue, touch, member?_set_of_ne (by decide), member?_source_set,
      member?_set_of_ne (by decide)]
  updated := by rw [swept_of_due stampable isDue, touch, resolve_set_self]
  others _ activity lastUpdated updated := select_swept activity lastUpdated updated

theorem treated_swept (stampable : Stampable now) (clock : Time.Instant) (doc : Value) :
    Treated clock now doc (swept clock now doc) := by
  unfold Treated
  split
  · rename_i isDue
    exact deactivates_swept stampable isDue
  · rename_i isDue
    exact swept_of_not_due stampable (Bool.eq_false_iff.mpr isDue)

/-- A sweep of a file that holds the documents. -/
structure Sweeps (clock now : Time.Instant) (before after : Storage) (docs written : List Value)
    (n : Nat) : Prop where
  ran : sweep clock now before = (.ok n, after)
  count : n = docs.countP (due now)
  each : List.Forall₂ (Treated clock now) docs written
  /-- Nothing is written where nothing is due. -/
  file : after.file = if n = 0 then before.file else before.file.store written
  /-- The file holds what was written, its numbers read anew. -/
  left : ∀ loaded, after.file.load = .ok loaded ↔
    if n = 0 then loaded = written else Value.rereadItems? written = some loaded

theorem depth_swept (shallow : doc.depth < Json.Progress.deepest) :
    (swept clock now doc).depth < Json.Progress.deepest := by
  have room : ∀ value : Value, value.depth = 0 → ∀ path, (segments path).length ≤ 2 →
      (segments path).length + value.depth < Json.Progress.deepest := by
    intro value flat path short
    have deepest : Json.Progress.deepest = 127 := by decide
    omega
  unfold swept
  split
  · refine depth_set_lt (depth_set_lt (depth_set_lt shallow ?_) ?_) ?_
    · exact room _ rfl _ (by decide)
    · exact room _ rfl _ (by decide)
    · exact room _ rfl _ (by decide)
  · exact shallow

theorem sweeps_holding {s : Storage} {docs : List Value} (stampable : Stampable now)
    (holds : s.Holds docs) (clock : Time.Instant) :
    ∃ after, Sweeps clock now s after docs (docs.map (swept clock now)) (docs.countP (due now)) ∧
      after.active = .file := by
  have ran := sweep_run clock now holds
  have selected : Query.selects (expired now) = due now := funext (selects_eq_due stampable)
  rw [selected] at ran
  have each : List.Forall₂ (Treated clock now) docs (docs.map (swept clock now)) :=
    List.forall₂_map_right_iff.mpr
      (List.forall₂_same.mpr fun doc _ => treated_swept stampable clock doc)
  by_cases none_due : docs.countP (due now) = 0
  · rw [if_pos none_due] at ran
    refine ⟨_, ⟨ran, rfl, each, (if_pos none_due).symm, fun loaded => ?_⟩, holds.active⟩
    have same : docs.map (swept clock now) = docs := map_swept_of_none (selected ▸ none_due)
    have loads : (s.after 1).file.load = .ok docs := holds.loaded
    rw [if_pos none_due, same, loads, Except.ok.injEq]
    exact eq_comm
  · rw [if_neg none_due] at ran
    refine ⟨_, ⟨ran, rfl, each, (if_neg none_due).symm, fun loaded => ?_⟩, holds.active⟩
    rw [if_neg none_due]
    have formed : ∀ doc ∈ docs.map (swept clock now), doc.WellFormed :=
      List.forall_mem_map.mpr fun doc held =>
        wellFormed_swept (File.wellFormed_of_load holds.loaded doc held)
    have shallow : Value.itemsDepth (docs.map (swept clock now)) < Json.Progress.deepest := by
      apply Value.itemsDepth_lt (by decide)
      exact List.forall_mem_map.mpr fun doc held => depth_swept
        ((Value.depth_le_of_mem held).trans_lt (File.depth_of_load holds.loaded))
    constructor
    · exact File.reread_of_load formed
    · intro reread
      refine (File.load_store_reread s.file formed reread).trans (if_pos ?_)
      rwa [Value.itemsDepth_reread _ _ reread]

/-! Two sweeps -/

theorem lt_toMillis_mono {first second : Time.Instant} (ordered : second.lt first = false)
    (before : t.lt first.toMillis = true) : t.lt second.toMillis = true := by
  have ordered : ¬ second.lt first = true := Bool.eq_false_iff.mp ordered
  rw [Time.Instant.lt_iff] at ordered before ⊢
  simp only [Time.Instant.toMillis] at before ⊢
  omega

theorem due_mono {first second : Time.Instant} (ordered : second.lt first = false)
    (isDue : due first doc = true) : due second doc = true := by
  simp only [due, Bool.and_eq_true, Option.any_eq_true] at isDue ⊢
  obtain ⟨active, finish, ends, before⟩ := isDue
  exact ⟨active, finish, ends, lt_toMillis_mono ordered before⟩

theorem holdsTrue_reread (read : v.Rereads w) : holdsTrue w = holdsTrue v := by
  cases v with
  | text | null | bool =>
    cases read
    rfl
  | number | array | object =>
    obtain ⟨_, _, rfl⟩ := Option.map_eq_some_iff.mp read
    rfl

theorem flagged_reread (read : doc.Rereads other) : flagged other = flagged doc := by
  have related := select_reread read (segments Field.isActive)
  unfold flagged resolve
  generalize select doc _ = found at related ⊢
  generalize select other _ = anew at related ⊢
  cases related with
  | none => rfl
  | @some v w again =>
    cases v with
    | array items =>
      obtain ⟨others, inner, rfl⟩ := Option.map_eq_some_iff.mp again
      have each := Value.rereadItems?_eq_some.mp inner
      clear inner again
      induction each with
      | nil => rfl
      | cons first _ ih => simp only [List.any_cons, holdsTrue_reread first, ih]
    | text | null | bool =>
      cases again
      rfl
    | number | object =>
      obtain ⟨_, _, rfl⟩ := Option.map_eq_some_iff.mp again
      rfl

theorem due_reread (read : doc.Rereads other) : due now other = due now doc := by
  rw [due, due, flagged_reread read, finish?_reread read]

theorem flagged_of_inactive (inactive : resolve doc Field.isActive = some (.bool false)) :
    flagged doc = false := by
  rw [flagged, inactive]
  rfl

/-- What was due is so no longer, and nothing else becomes due. -/
theorem due_swept {first second : Time.Instant} (stampable : Stampable first) :
    due second (swept clock first doc) = (due second doc && !due first doc) := by
  cases isDue : due first doc with
  | true =>
    have inactive : resolve (swept clock first doc) Field.isActive = some (.bool false) :=
      (deactivates_swept stampable isDue).activity
    rw [due, flagged_of_inactive inactive]
    simp
  | false =>
    rw [swept_of_not_due stampable isDue]
    simp

/-- As it was, or with its numbers read anew once more. -/
def Carried (v w : Value) : Prop := w = v ∨ v.Rereads w

/-- What is loaded in place of a document, from a file that was written or left alone. -/
def Reads (written : Bool) (doc other : Value) : Prop :=
  if written then doc.Rereads other else other = doc

def SameActivity (doc other : Value) : Prop :=
  Option.Rel Carried (resolve doc Field.isActive) (resolve other Field.isActive)

def Inactive (doc : Value) : Prop := resolve doc Field.isActive = some (.bool false)

theorem Reads.carried {written : Bool} (reads : Reads written doc other) : Carried doc other := by
  cases written with
  | true => exact .inr reads
  | false => exact .inl reads

theorem SameActivity.of_carried (carried : Carried doc other) : SameActivity doc other := by
  rcases carried with rfl | read
  · unfold SameActivity
    cases resolve other Field.isActive with
    | none => exact .none
    | some v => exact .some (.inl rfl)
  · have related := select_reread read (segments Field.isActive)
    unfold SameActivity resolve
    generalize select doc _ = found at related ⊢
    generalize select other _ = anew at related ⊢
    cases related with
    | none => exact .none
    | some again => exact .some (.inr again)

theorem Inactive.same (first : Inactive doc) (second : Inactive other) :
    SameActivity doc other := by
  rw [SameActivity, first, second]
  exact .some (.inl rfl)

theorem Inactive.carried (inactive : Inactive doc) (carried : Carried doc other) :
    Inactive other := by
  rcases carried with rfl | read
  · exact inactive
  · refine (resolve_reread_of_steady read fun v found => ?_).trans inactive
    cases inactive.symm.trans found
    rfl

theorem inactive_swept (stampable : Stampable now) (isDue : due now doc = true) :
    Inactive (swept clock now doc) := (deactivates_swept stampable isDue).activity

theorem due_carried (carried : Carried doc other) : due now other = due now doc := by
  rcases carried with rfl | read
  · rfl
  · exact due_reread read

section Two

variable {first second clock₁ clock₂ clock₃ : Time.Instant}

/-- A document of the file after the first sweep, in the eyes of the second. -/
theorem due_after (stampable : Stampable first) (carried : Carried (swept clock first doc) other) :
    due second other = (due second doc && !due first doc) := by
  rw [due_carried carried, due_swept stampable]

/-- A listing that is due at the later time is inactive after both sweeps. -/
theorem inactive_after (stampable₁ : Stampable first) (stampable₂ : Stampable second)
    (carried : Carried (swept clock₁ first doc) other) (isDue : due second doc = true) :
    Inactive (swept clock₂ second other) := by
  have again : due second other = (due second doc && !due first doc) := due_after stampable₁ carried
  cases early : due first doc with
  | true =>
    have rests : due second other = false := by
      rw [again, early]
      exact Bool.and_false _
    rw [swept_of_not_due stampable₂ rests]
    exact (inactive_swept stampable₁ early).carried carried
  | false =>
    have stays : due second other = true := by
      rw [again, early, isDue]
      rfl
    exact inactive_swept stampable₂ stays

/-- A listing that is not due at the later time is left alone by both sweeps. -/
theorem unchanged_before (stampable₁ : Stampable first) (ordered : second.lt first = false)
    (notDue : due second doc = false) : swept clock₁ first doc = doc := by
  apply swept_of_not_due stampable₁
  exact Bool.eq_false_iff.mpr fun isDue => by simp [due_mono ordered isDue] at notDue

theorem unchanged_after (stampable₁ : Stampable first) (stampable₂ : Stampable second)
    (carried : Carried (swept clock₁ first doc) other) (notDue : due second doc = false) :
    swept clock₂ second other = other := by
  apply swept_of_not_due stampable₂
  rw [due_after stampable₁ carried, notDue]
  rfl

theorem sameActivity_swept (stampable₁ : Stampable first) (stampable₂ : Stampable second)
    (ordered : second.lt first = false) (carried : Carried (swept clock₁ first doc) other) :
    SameActivity (swept clock₃ second doc) (swept clock₂ second other) := by
  cases isDue : due second doc with
  | true =>
    exact (inactive_swept stampable₂ isDue).same
      (inactive_after stampable₁ stampable₂ carried isDue)
  | false =>
    have same : swept clock₁ first doc = doc := unchanged_before stampable₁ ordered isDue
    have left : swept clock₂ second other = other :=
      unchanged_after stampable₁ stampable₂ carried isDue
    rw [same] at carried
    rw [swept_of_not_due stampable₂ isDue, left]
    exact .of_carried carried

/-- Reading in between and at the end comes to reading at the end, or to once more. -/
theorem carried_of_reads {between after : Bool} {x y : Value} (once : Reads between doc other)
    (twice : Reads after other y) (alone : Reads (between || after) doc x) : Carried x y := by
  cases between with
  | false =>
    have same : other = doc := once
    subst same
    cases after with
    | false => exact .inl ((show y = other from twice).trans (show x = other from alone).symm)
    | true => exact .inl (Option.some.inj (Eq.trans (Eq.symm twice) alone))
  | true =>
    have same : x = other := Option.some.inj (Eq.trans (Eq.symm alone) once)
    rw [same]
    exact twice.carried

theorem sameActivity_loaded {between after : Bool} {x y : Value} (stampable₁ : Stampable first)
    (stampable₂ : Stampable second) (ordered : second.lt first = false)
    (once : Reads between (swept clock₁ first doc) other)
    (twice : Reads after (swept clock₂ second other) y)
    (alone : Reads (between || after) (swept clock₃ second doc) x) : SameActivity x y := by
  cases isDue : due second doc with
  | true =>
    have here : Inactive (swept clock₃ second doc) := inactive_swept stampable₂ isDue
    have there : Inactive (swept clock₂ second other) :=
      inactive_after stampable₁ stampable₂ once.carried isDue
    exact (here.carried alone.carried).same (there.carried twice.carried)
  | false =>
    have same : swept clock₁ first doc = doc := unchanged_before stampable₁ ordered isDue
    have left : swept clock₂ second other = other :=
      unchanged_after stampable₁ stampable₂ once.carried isDue
    rw [same] at once
    rw [left] at twice
    rw [swept_of_not_due stampable₂ isDue] at alone
    exact .of_carried (carried_of_reads once twice alone)

end Two

theorem Sweeps.reads {before after : Storage} {docs written loaded : List Value} {n : Nat}
    (sweeps : Sweeps clock now before after docs written n)
    (loads : after.file.load = .ok loaded) : List.Forall₂ (Reads (n != 0)) written loaded := by
  have held := (sweeps.left loaded).mp loads
  by_cases none_due : n = 0
  · rw [if_pos none_due] at held
    rw [none_due, held]
    exact List.forall₂_same.mpr fun _ _ => rfl
  · rw [if_neg none_due] at held
    rw [bne_iff_ne.mpr none_due]
    exact Value.rereadItems?_eq_some.mp held

theorem countP_after {first second : Time.Instant} {docs read : List Value}
    (stampable : Stampable first) (ordered : second.lt first = false)
    (each : List.Forall₂ (fun doc other => Carried (swept clock first doc) other) docs read) :
    docs.countP (due first) + read.countP (due second) = docs.countP (due second) := by
  induction each with
  | nil => rfl
  | @cons doc other docs read head _ ih =>
    have again : due second other = (due second doc && !due first doc) := due_after stampable head
    cases early : due first doc with
    | true =>
      have later := due_mono ordered early
      simp only [early, later, Bool.not_true, Bool.and_false] at again
      simp only [List.countP_cons, early, later, again]
      simp only [if_true, Bool.false_eq_true, if_false]
      omega
    | false =>
      simp only [early, Bool.not_false, Bool.and_true] at again
      simp only [List.countP_cons, early, again, Bool.false_eq_true, if_false]
      omega

/-- Two sweeps leave every listing with the activity that the later of them alone leaves it with,
and deactivate as many in all. A sweep changes just the listings that are due. -/
theorem sweeps_compose (s : Storage) (first second clock₁ clock₂ clock₃ : Time.Instant)
    (active : s.active = .file) (stampable₁ : Stampable first) (stampable₂ : Stampable second)
    (ordered : second.lt first = false) :
    (∀ fault, s.file.load = .error fault →
      ∀ clock now, sweep clock now s = (.error fault, s.after 1)) ∧
    ∀ docs, s.file.load = .ok docs →
      ∃ earlier alone written single m k,
        Sweeps clock₁ first s earlier docs written m ∧
        Sweeps clock₃ second s alone docs single k ∧
        ∀ read, earlier.file.load = .ok read →
          ∃ later rewritten n, Sweeps clock₂ second earlier later read rewritten n ∧
            m + n = k ∧ (first = second → n = 0) ∧
            List.Forall₂ SameActivity single rewritten ∧
            ∀ x y, alone.file.load = .ok x → later.file.load = .ok y →
              List.Forall₂ SameActivity x y := by
  refine ⟨fun fault unreadable clock now => sweep_unreadable clock now active unreadable, ?_⟩
  intro docs loaded
  have holds : s.Holds docs := ⟨active, loaded⟩
  obtain ⟨earlier, once, stillActive⟩ := sweeps_holding stampable₁ holds clock₁
  obtain ⟨alone, direct, -⟩ := sweeps_holding stampable₂ holds clock₃
  refine ⟨earlier, alone, _, _, _, _, once, direct, ?_⟩
  intro read loadedAgain
  have holdsAgain : earlier.Holds read := ⟨stillActive, loadedAgain⟩
  obtain ⟨later, twice, -⟩ := sweeps_holding stampable₂ holdsAgain clock₂
  have between := List.forall₂_map_left_iff.mp (once.reads loadedAgain)
  have carried := between.imp fun _ _ reads => reads.carried
  have total := countP_after stampable₁ ordered carried
  refine ⟨later, _, _, twice, total, ?_, ?_, ?_⟩
  · intro same
    subst same
    omega
  · apply List.forall₂_map_left_iff.mpr
    apply List.forall₂_map_right_iff.mpr
    exact carried.imp fun _ _ kept => sameActivity_swept stampable₁ stampable₂ ordered kept
  · intro x y loadedAlone loadedLater
    have wrote : (docs.countP (due second) != 0) =
        (docs.countP (due first) != 0 || read.countP (due second) != 0) := by
      rw [← total, Bool.eq_iff_iff]
      simp only [bne_iff_ne, Bool.or_eq_true]
      omega
    have onceRead := List.forall₂_map_left_iff.mp (direct.reads loadedAlone)
    have after := List.forall₂_map_left_iff.mp (twice.reads loadedLater)
    have twiceRead := forall₂_compose between after
      fun _ other _ reads next => Exists.intro other (And.intro reads next)
    rw [wrote] at onceRead
    refine forall₂_compose onceRead.flip twiceRead ?_
    rintro x doc y aloneReads ⟨other, reads, next⟩
    exact sameActivity_loaded stampable₁ stampable₂ ordered reads next aloneReads

theorem rereads_swept (steady : doc.Rereads doc) :
    (swept clock now doc).Rereads (swept clock now doc) := by
  have falsity : (Value.bool false).Rereads (.bool false) := rfl
  have stamp : ∀ t, (stampValue t).Rereads (stampValue t) := fun _ => rfl
  unfold swept
  split
  · exact rereads_set (rereads_set (rereads_set steady falsity _) (stamp now) _) (stamp clock) _
  · exact steady

theorem forall_rereads_swept {docs : List Value} (steady : ∀ doc ∈ docs, doc.Rereads doc) :
    ∀ doc ∈ docs.map (swept clock now), doc.Rereads doc :=
  List.forall_mem_map.mpr fun doc held => rereads_swept (steady doc held)

theorem Sweeps.holds {before after : Storage} {docs written loaded : List Value} {n : Nat}
    (sweeps : Sweeps clock now before after docs written n) (stampable : Stampable now)
    (held : before.Holds docs) (wrote : n ≠ 0)
    (reread : Value.rereadItems? (docs.map (swept clock now)) = some loaded) :
    after.Holds loaded := by
  obtain ⟨other, again, active⟩ := sweeps_holding stampable held clock
  have same := sweeps.ran.symm.trans again.ran
  cases same
  refine ⟨active, (again.left _).mpr ?_⟩
  rwa [if_neg wrote]

/-- Two listings that end one after the other. -/
def ending : List Value :=
  [listedUntil "a" "2026-10-01T00:00:00Z", listedUntil "b" "2026-10-10T00:00:00Z"]

theorem ending_steady : ∀ doc ∈ ending, doc.Rereads doc :=
  List.forall_mem_cons.mpr ⟨rfl, List.forall_mem_singleton.mpr rfl⟩

/-- A time between the two ends, and one after both. -/
def between : Time.Instant := ⟨1791158400, 0⟩

def afterwards : Time.Instant := ⟨1792324800, 0⟩

theorem stampable_between : Stampable between :=
  ⟨⟨by decide, fun leap => absurd leap (by decide)⟩, by decide, by decide⟩

theorem stampable_afterwards : Stampable afterwards :=
  ⟨⟨by decide, fun leap => absurd leap (by decide)⟩, by decide, by decide⟩

theorem sweeps_compose_listed :
    let shelf := listedShelf "2026-10-01T00:00:00Z" "2026-10-10T00:00:00Z"
    shelf.active = .file ∧ Stampable between ∧ Stampable afterwards ∧
      afterwards.lt between = false ∧ ∃ earlier later alone,
        sweep pastNoon between shelf = (.ok 1, earlier) ∧
        sweep pastNoon afterwards earlier = (.ok 1, later) ∧
        sweep pastNoon afterwards shelf = (.ok 2, alone) ∧
        ∀ x y, alone.file.load = .ok x → later.file.load = .ok y →
          List.Forall₂ SameActivity x y := by
  intro shelf
  have holds : shelf.Holds ending := listedShelf_holds _ _
  have ordered : afterwards.lt between = false := by decide
  obtain ⟨-, loads⟩ := sweeps_compose shelf between afterwards pastNoon pastNoon pastNoon
    holds.active stampable_between stampable_afterwards ordered
  obtain ⟨earlier, alone, written, single, m, k, once, direct, again⟩ := loads ending holds.loaded
  have first : m = 1 := once.count.trans (by decide +kernel)
  have both : k = 2 := direct.count.trans (by decide +kernel)
  have read : earlier.Holds (ending.map (swept pastNoon between)) :=
    once.holds stampable_between holds (by rw [first]; decide)
      (Value.rereadItems?_eq_some.mpr (List.forall₂_same.mpr (forall_rereads_swept ending_steady)))
  obtain ⟨later, rewritten, n, twice, total, -, -, same⟩ := again _ read.loaded
  have second : n = 1 := by omega
  subst first second both
  exact ⟨holds.active, stampable_between, stampable_afterwards, ordered, earlier, later, alone,
    once.ran, twice.ran, direct.ran, same⟩

/-! A number that moves with every writing -/

def faintUnit : Nat := Nat.pow 2 997

theorem faintUnit_eq : Number.faintUnit = faintUnit := rfl

theorem faintUnit_pos : 0 < faintUnit := by decide +kernel

/-- A document whose activity is a small double. -/
def faint (significand : Nat) : Value :=
  .object [("id", .text "c"), ("is_active", .number (.double ⟨false, significand * faintUnit⟩))]

theorem activity_faint (significand : Nat) : resolve (faint significand) Field.isActive =
    some (.number (.double ⟨false, significand * faintUnit⟩)) := rfl

theorem faint_up : (faint 8567991254637793).Rereads (faint 8567991254637794) := by
  have read : (Number.double ⟨false, 8567991254637793 * faintUnit⟩).reread? =
      some (.double ⟨false, 8567991254637794 * faintUnit⟩) := faintUnit_eq ▸ Number.faint_up
  exact Value.rereads_beside_text read

theorem faint_down : (faint 8567991254637794).Rereads (faint 8567991254637793) := by
  have read : (Number.double ⟨false, 8567991254637794 * faintUnit⟩).reread? =
      some (.double ⟨false, 8567991254637793 * faintUnit⟩) := faintUnit_eq ▸ Number.faint_down
  exact Value.rereads_beside_text read

theorem rereads_beside {docs : List Value} {n next : Nat} (stampable : Stampable now)
    (steady : ∀ doc ∈ docs, doc.Rereads doc) (moves : (faint n).Rereads (faint next)) :
    Value.rereadItems? ((docs ++ [faint n]).map (swept clock now)) =
      some (docs.map (swept clock now) ++ [faint next]) := by
  have left : swept clock now (faint n) = faint n := swept_of_not_due stampable rfl
  rw [List.map_append, List.map_singleton, left]
  apply Value.rereadItems?_eq_some.mpr
  exact List.rel_append (List.forall₂_same.mpr (forall_rereads_swept steady))
    (List.forall₂_cons.mpr ⟨moves, .nil⟩)

/-- A storage whose file was written with the two listings and a small double. -/
def faintShelf : Storage :=
  .fileOnly (File.store ⟨"shelf.json", .missing⟩ (ending ++ [faint 8567991254637794]))

theorem faintShelf_holds : faintShelf.Holds (ending ++ [faint 8567991254637793]) := by
  have last : (faint 8567991254637794).WellFormed := ⟨by decide, trivial, trivial, trivial⟩
  have formed : ∀ doc ∈ ending ++ [faint 8567991254637794], doc.WellFormed :=
    List.forall_mem_append.mpr ⟨List.forall_mem_cons.mpr ⟨listedUntil_formed _ _,
      List.forall_mem_singleton.mpr (listedUntil_formed _ _)⟩, List.forall_mem_singleton.mpr last⟩
  have reread : Value.rereadItems? (ending ++ [faint 8567991254637794]) =
      some (ending ++ [faint 8567991254637793]) := Value.rereadItems?_eq_some.mpr
    (List.rel_append (List.forall₂_same.mpr ending_steady)
      (List.forall₂_cons.mpr ⟨faint_down, .nil⟩))
  have depth : Value.itemsDepth (ending ++ [faint 8567991254637793]) = 2 := rfl
  have shallow : Value.itemsDepth (ending ++ [faint 8567991254637793]) < Json.Progress.deepest := by
    rw [depth]
    decide
  exact ⟨rfl, (File.load_store_reread _ formed reread).trans (if_pos shallow)⟩

/-- After two sweeps the number has moved twice and is what it was, after one it is its neighbour,
although no sweep is about this document. -/
theorem sweeps_move_numbers :
    faintShelf.active = .file ∧ Stampable between ∧ Stampable afterwards ∧
      afterwards.lt between = false ∧ ∃ earlier later alone x y,
        sweep pastNoon between faintShelf = (.ok 1, earlier) ∧
        sweep pastNoon afterwards earlier = (.ok 1, later) ∧
        sweep pastNoon afterwards faintShelf = (.ok 2, alone) ∧
        alone.file.load = .ok x ∧ later.file.load = .ok y ∧
        x.map (resolve · Field.isActive) ≠ y.map (resolve · Field.isActive) := by
  have holds := faintShelf_holds
  obtain ⟨earlier, once, -⟩ := sweeps_holding stampable_between holds pastNoon
  have first : (ending ++ [faint 8567991254637793]).countP (due between) = 1 := by decide +kernel
  rw [first] at once
  have read := once.holds stampable_between holds (by decide)
    (rereads_beside stampable_between ending_steady faint_up)
  obtain ⟨later, twice, -⟩ := sweeps_holding stampable_afterwards read pastNoon
  have second : (ending.map (swept pastNoon between) ++ [faint 8567991254637794]).countP
      (due afterwards) = 1 := by decide +kernel
  rw [second] at twice
  have readLater := twice.holds stampable_afterwards read (by decide)
    (rereads_beside stampable_afterwards (forall_rereads_swept ending_steady) faint_down)
  obtain ⟨alone, direct, -⟩ := sweeps_holding stampable_afterwards holds pastNoon
  have both : (ending ++ [faint 8567991254637793]).countP (due afterwards) = 2 := by decide +kernel
  rw [both] at direct
  have readAlone := direct.holds stampable_afterwards holds (by decide)
    (rereads_beside stampable_afterwards ending_steady faint_up)
  refine ⟨holds.active, stampable_between, stampable_afterwards, by decide, earlier, later, alone,
    _, _, once.ran, twice.ran, direct.ran, readAlone.loaded, readLater.loaded, ?_⟩
  intro same
  have last := congrArg List.getLast? same
  simp only [List.map_append, List.map_singleton, List.getLast?_append, List.getLast?_singleton,
    Option.some_or, activity_faint, Option.some.injEq, Value.number.injEq, Number.double.injEq,
    Binary64.mk.injEq, true_and] at last
  exact absurd (Nat.eq_of_mul_eq_mul_right faintUnit_pos last) (by decide)

end Sync

end Catalog
