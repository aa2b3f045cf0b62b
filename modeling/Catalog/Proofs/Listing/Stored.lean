import Catalog.Listing.Record
import Catalog.Proofs.Document.Fields

/-!
The document that stores a listing. Most of its members are there for every listing and do not
depend on the time; only the stamp of the source and the activity do.
-/
namespace Catalog.Listing

open Json

variable {l : Listing} {now later : Time.Instant} {name : String}

/-- The members that the document of every listing has. -/
def presentFields : List String :=
  ["title", "description", "organizer", "location", "dates", "skills_required", "external_url",
    "source", "registration", "is_active"]

theorem sorted_membersOf_toDocument (l : Listing) (now : Time.Instant) :
    (Document.membersOf (l.toDocument now)).Sorted := Members.sorted_ofList _

theorem member?_toDocument_present (l : Listing) (now : Time.Instant)
    (present : name ∈ presentFields) : ∃ v, (l.toDocument now).member? name = some v := by
  simp only [presentFields, List.mem_cons, List.not_mem_nil, or_false] at present
  simp only [toDocument, Value.record, Value.member?, Members.get?_ofList]
  rcases present with same | same | same | same | same | same | same | same | same | same <;>
    subst same <;> cases l.kind <;> cases l.mode <;> simp [optionalMember, Members.get?, Field.isActive]

/-- Only the source and the activity depend on the time. -/
theorem member?_toDocument_steady (l : Listing) (now later : Time.Instant)
    (source : name ≠ "source") (activity : name ≠ Field.isActive) :
    (l.toDocument now).member? name = (l.toDocument later).member? name := by
  simp only [toDocument, Value.record, Value.member?, Members.get?_ofList, List.reverse_append,
    Members.get?_append]
  have others : ("source" == name) = false := by simpa using Ne.symm source
  have another : (Field.isActive == name) = false := by simpa using Ne.symm activity
  simp only [List.reverse_cons, List.reverse_nil, List.nil_append, Members.get?_append,
    Members.get?, others, another, Bool.false_eq_true, if_false]

theorem member?_source (l : Listing) (now : Time.Instant) :
    (l.toDocument now).member? "source" =
      some (.record (("platform", .text l.origin.platform) ::
        (optionalMember "source_id" .text l.origin.sourceId ++
          [("last_updated", Document.stampValue now)]))) := by
  simp [toDocument, Value.record, Value.member?, Members.get?_ofList, Members.get?, Field.isActive]

theorem resolve_platform (l : Listing) (now : Time.Instant) :
    Document.resolve (l.toDocument now) Field.platform = some (.text l.origin.platform) := by
  have path : segments Field.platform = ["source", "platform"] := by decide
  simp only [Document.resolve, path, Document.select, member?_source]
  cases l.origin.sourceId <;>
    simp [Value.record, Value.member?, Members.get?_ofList, Members.get?, optionalMember]

theorem resolve_sourceId (l : Listing) (now : Time.Instant) :
    Document.resolve (l.toDocument now) Field.sourceId = l.origin.sourceId.map .text := by
  have path : segments Field.sourceId = ["source", "source_id"] := by decide
  simp only [Document.resolve, path, Document.select, member?_source]
  cases l.origin.sourceId <;>
    simp [Value.record, Value.member?, Members.get?_ofList, Members.get?, optionalMember]

theorem resolve_lastUpdated (l : Listing) (now : Time.Instant) :
    Document.resolve (l.toDocument now) Field.lastUpdated = some (Document.stampValue now) := by
  have path : segments Field.lastUpdated = ["source", "last_updated"] := by decide
  simp only [Document.resolve, path, Document.select, member?_source]
  cases l.origin.sourceId <;>
    simp [Value.record, Value.member?, Members.get?_ofList, Members.get?, optionalMember]

theorem resolve_title (l : Listing) (now : Time.Instant) :
    Document.resolve (l.toDocument now) Field.title = some (.text l.title) := by
  have path : segments Field.title = ["title"] := by decide
  rw [Document.resolve, path, Document.select_one]
  cases kind : l.kind <;> cases mode : l.mode <;>
  simp [toDocument, Value.record, Value.member?, Members.get?_ofList, Members.get?, Field.isActive, optionalMember, kind, mode]

theorem resolve_externalUrl (l : Listing) (now : Time.Instant) :
    Document.resolve (l.toDocument now) Field.externalUrl = some (.text l.externalUrl) := by
  have path : segments Field.externalUrl = ["external_url"] := by decide
  rw [Document.resolve, path, Document.select_one]
  simp [toDocument, Value.record, Value.member?, Members.get?_ofList, Members.get?, Field.isActive]

/-! Well-formed documents -/

theorem wellFormed_record {pairs : List (String × Value)}
    (formed : ∀ m ∈ pairs, m.2.WellFormed) : (Value.record pairs).WellFormed :=
  Members.Formed.object ⟨Members.sorted_ofList pairs, fun m member =>
    formed m (Members.mem_ofList member)⟩

theorem formed_optionalMember {α : Type} {write : α → Value} {part : Option α}
    {m : String × Value} (member : m ∈ optionalMember name write part)
    (formed : ∀ a, part = some a → (write a).WellFormed) : m.2.WellFormed := by
  cases part with
  | none => cases member
  | some a => exact List.mem_singleton.mp member ▸ formed a rfl

section Parts

variable {α : Type} (shape : Value → Option α) (write : α → Value)
  (known : ∀ v a, v.WellFormed → shape v = some a → (write a).WellFormed)
include known

theorem wellFormed_read {v : Value} (formed : v.WellFormed) :
    ((Lenient.read shape v).toValue write).WellFormed := by
  unfold Lenient.read
  split
  · rename_i a read
    exact known v a formed read
  · exact formed

theorem wellFormed_readOr (default : α) (empty : (write default).WellFormed)
    {part : Option Value} (formed : ∀ v, part = some v → v.WellFormed) :
    ((Lenient.readOr shape default part).toValue write).WellFormed := by
  cases part with
  | none => exact empty
  | some v => exact wellFormed_read shape write known (formed v rfl)

theorem wellFormed_readOptional {part : Option Value} {a : Lenient α}
    (formed : ∀ v, part = some v → v.WellFormed) (read : Lenient.readOptional shape part = some a) :
    (a.toValue write).WellFormed := by
  unfold Lenient.readOptional at read
  split at read
  · cases read
  · cases read
  · rename_i v _
    cases read
    exact wellFormed_read shape write known (formed v rfl)

end Parts

theorem part?_wellFormed {count : Nat} {v : Value} {part : String → Nat → Option Value}
    (formed : v.WellFormed) (read : part? count v = some part) (name : String) (i : Nat) :
    ∀ w, part name i = some w → w.WellFormed := by
  intro w found
  cases v with
  | object members =>
    cases read
    exact formed.members.2 _ (Members.mem_of_get? found)
  | array items =>
    simp only [part?] at read
    split at read
    · cases read
      exact (Value.itemsWellFormed_iff items).mp formed w (List.mem_of_getElem? found)
    · cases read
  | null | bool | number | text => cases read

theorem wellFormed_dates {v : Value} {d : Dates} (formed : v.WellFormed)
    (read : Dates.read? v = some d) : d.toValue.WellFormed := by
  simp only [Dates.read?, Option.bind_eq_bind, Option.bind_eq_some_iff, Option.some.injEq] at read
  obtain ⟨part, found, same⟩ := read
  subst same
  have stamped : ∀ (v : Value) (t : Time.Instant), v.WellFormed → v.instant? = some t →
      (Document.stampValue t).WellFormed := fun _ _ _ _ => trivial
  have dated := fun name i a =>
    wellFormed_readOptional Value.instant? Document.stampValue stamped (a := a) (part?_wellFormed formed found name i)
  refine wellFormed_record fun m member => ?_
  simp only [List.mem_append] at member
  rcases member with (start | finish) | deadline
  · exact formed_optionalMember start (dated "start_date" 0)
  · exact formed_optionalMember finish (dated "end_date" 1)
  · exact formed_optionalMember deadline (dated "registration_deadline" 2)

theorem wellFormed_location (place : Location) : place.toValue.WellFormed := by
  refine wellFormed_record fun m member => ?_
  simp only [List.mem_append] at member
  rcases member with ((city | state) | country) | venue
  · exact formed_optionalMember city fun _ _ => trivial
  · exact formed_optionalMember state fun _ _ => trivial
  · exact formed_optionalMember country fun _ _ => trivial
  · exact formed_optionalMember venue fun _ _ => trivial

theorem wellFormed_registration (r : Registration) : r.toValue.WellFormed := by
  refine wellFormed_record fun m member => ?_
  rcases List.mem_append.mp member with isOpen | url
  · exact formed_optionalMember isOpen fun _ _ => trivial
  · exact formed_optionalMember url fun _ _ => trivial

theorem wellFormed_texts (items : List String) : (Value.array (items.map .text)).WellFormed := by
  refine (Value.itemsWellFormed_iff _).mpr fun v member => ?_
  obtain ⟨s, _, same⟩ := List.mem_map.mp member
  exact same ▸ trivial

theorem wellFormed_assemble (title externalUrl : String) (origin : Origin)
    {part : String → Nat → Option Value}
    (formed : ∀ name i v, part name i = some v → v.WellFormed) (now : Time.Instant) :
    ((assemble title externalUrl origin part).toDocument now).WellFormed := by
  have text := fun name i => wellFormed_readOr Value.text? .text (fun _ _ _ _ => trivial) ""
    trivial (formed name i)
  have kind := fun k => wellFormed_readOptional (choice Kind.ofName?) (fun k => .text k.name)
    (fun _ _ _ _ => trivial) (a := k) (formed "type" 3)
  have mode := fun m => wellFormed_readOptional (choice Mode.ofName?) (fun m => .text m.name)
    (fun _ _ _ _ => trivial) (a := m) (formed "mode" 4)
  have place := wellFormed_readOr Location.read? Location.toValue
    (fun _ place _ _ => wellFormed_location place) {} (wellFormed_location {}) (formed "location" 5)
  have dates := wellFormed_readOr Dates.read? Dates.toValue (fun _ _ => wellFormed_dates) {}
    Members.formed_nil.object (formed "dates" 6)
  have skills := wellFormed_readOr texts? (fun items => .array (items.map .text))
    (fun _ items _ _ => wellFormed_texts items) [] (wellFormed_texts []) (formed "skills_required" 7)
  have registration := wellFormed_readOr Registration.read? Registration.toValue
    (fun _ r _ _ => wellFormed_registration r) {} (wellFormed_registration {})
    (formed "registration" 10)
  have source : (Value.record (("platform", .text origin.platform) ::
      (optionalMember "source_id" .text origin.sourceId ++
        [("last_updated", Document.stampValue now)]))).WellFormed := by
    refine wellFormed_record fun m member => ?_
    rcases List.mem_cons.mp member with platform | rest
    · exact platform ▸ trivial
    · rcases List.mem_append.mp rest with id | stamp
      · exact formed_optionalMember id fun _ _ => trivial
      · exact List.mem_singleton.mp stamp ▸ trivial
  refine wellFormed_record fun m member => ?_
  rw [List.mem_append, List.mem_append, List.mem_append] at member
  rcases member with ((front | byKind) | byMode) | back
  · revert m
    simp only [List.forall_mem_cons]
    exact ⟨trivial, text _ _, text _ _, fun _ none => nomatch none⟩
  · exact formed_optionalMember byKind kind
  · exact formed_optionalMember byMode mode
  · revert m
    simp only [List.forall_mem_cons]
    exact ⟨place, dates, skills, trivial, source, registration, trivial, fun _ none => nomatch none⟩

/-- A record that is well formed, as all JSON that was read is, is stored well formed. -/
theorem wellFormed_toDocument {record : Value} (formed : record.WellFormed)
    (accepted : ofValue record = .ok l) (now : Time.Instant) : (l.toDocument now).WellFormed := by
  cases record with
  | object members =>
    have parts : ∀ (name : String) (i : Nat) (v : Value),
        Members.get? name members = some v → v.WellFormed := fun name _ v found =>
      formed.members.2 _ (Members.mem_of_get? found)
    simp only [ofValue, bind, Except.bind] at accepted
    split at accepted <;> try cases accepted
    split at accepted <;> try cases accepted
    split at accepted <;> cases accepted
    exact wellFormed_assemble _ _ _ parts now
  | array items =>
    have parts : ∀ (name : String) (i : Nat) (v : Value), items[i]? = some v → v.WellFormed :=
      fun _ _ v found => (Value.itemsWellFormed_iff items).mp formed v (List.mem_of_getElem? found)
    simp only [ofValue, bind, Except.bind] at accepted
    split at accepted <;> try cases accepted
    split at accepted <;> try cases accepted
    split at accepted <;> try cases accepted
    split at accepted <;> cases accepted
    exact wellFormed_assemble _ _ _ parts now
  | null | bool | number | text => cases accepted

end Catalog.Listing
