import Catalog.Proofs.Listing.Stored
import Catalog.Proofs.Lists
import Catalog.Proofs.Time.Range

/-!
Listings read from their own documents. The document of a listing reads as a listing, which is
stored as the same document but for the activity. What was not recognised is kept as it was sent, so
it is not recognised the next time either; a date is written as a stamp, which reads as a date with
that stamp or not at all.
-/
namespace Catalog.Listing

open Json

/-! Parts written and read again -/

section Parts

variable {α : Type} {shape : Value → Option α} {write : α → Value}

/-- Where a shape reads what it has written, it writes the same again. -/
def Settles (shape : Value → Option α) (write : α → Value) : Prop :=
  ∀ v a b, shape v = some a → shape (write a) = some b → write b = write a

theorem settles_of_inverse (inverse : ∀ a, shape (write a) = some a) : Settles shape write := by
  intro v a b _ again
  rw [inverse a] at again
  cases again
  rfl

theorem toValue_read_again (settles : Settles shape write) (v : Value) :
    (Lenient.read shape ((Lenient.read shape v).toValue write)).toValue write =
      (Lenient.read shape v).toValue write := by
  unfold Lenient.read
  cases first : shape v with
  | none => simp only [Lenient.toValue, first]
  | some a =>
    simp only [Lenient.toValue]
    cases second : shape (write a) with
    | none => rfl
    | some b => exact settles v a b first second

theorem toValue_readOr_again (settles : Settles shape write) {default : α}
    (empty : shape (write default) = some default) (part : Option Value) :
    (Lenient.readOr shape default (some ((Lenient.readOr shape default part).toValue write))).toValue
      write = (Lenient.readOr shape default part).toValue write := by
  cases part with
  | none => simp only [Lenient.readOr, Lenient.read, Lenient.toValue, empty]
  | some v => exact toValue_read_again settles v

theorem held_readOr (settles : Settles shape write) {default : α}
    (empty : shape (write default) = some default) {part found : Option Value} {a : Lenient α}
    (read : a = Lenient.readOr shape default part) (held : found = some (a.toValue write)) :
    found = some ((Lenient.readOr shape default found).toValue write) := by
  subst held read
  exact congrArg some (toValue_readOr_again settles empty part).symm

theorem readOptional_some {v : Value} (held : v ≠ .null) :
    Lenient.readOptional shape (some v) = some (Lenient.read shape v) := by
  cases v with
  | null => exact absurd rfl held
  | bool | number | text | array | object => rfl

theorem toValue_read_ne_null (written : ∀ a, write a ≠ .null) {v : Value} (held : v ≠ .null) :
    (Lenient.read shape v).toValue write ≠ .null := by
  unfold Lenient.read
  cases shape v with
  | none => exact held
  | some a => exact written a

theorem map_readOptional_again (settles : Settles shape write) (written : ∀ a, write a ≠ .null)
    (part : Option Value) :
    (Lenient.readOptional shape ((Lenient.readOptional shape part).map (Lenient.toValue write))).map
      (Lenient.toValue write) = (Lenient.readOptional shape part).map (Lenient.toValue write) := by
  cases part with
  | none => rfl
  | some v =>
    by_cases null : v = .null
    · subst null
      rfl
    · rw [readOptional_some null, Option.map_some,
        readOptional_some (toValue_read_ne_null written null), Option.map_some,
        toValue_read_again settles]

theorem held_readOptional (settles : Settles shape write) (written : ∀ a, write a ≠ .null)
    {part found : Option Value} {a : Option (Lenient α)}
    (read : a = Lenient.readOptional shape part) (held : found = a.map (Lenient.toValue write)) :
    found = (Lenient.readOptional shape found).map (Lenient.toValue write) := by
  subst held read
  exact (map_readOptional_again settles written part).symm

/-- What is known of a part after it was written is what its written form reads as. -/
theorem known?_readOptional_again (written : ∀ a, write a ≠ .null) (part : Option Value) :
    (Lenient.readOptional shape ((Lenient.readOptional shape part).map
      (Lenient.toValue write))).bind Lenient.known? =
        ((Lenient.readOptional shape part).bind Lenient.known?).bind fun a => shape (write a) := by
  cases part with
  | none => rfl
  | some v =>
    by_cases null : v = .null
    · subst null
      rfl
    · rw [readOptional_some null, Option.map_some,
        readOptional_some (toValue_read_ne_null written null)]
      unfold Lenient.read
      cases first : shape v with
      | none => simp [Lenient.toValue, first, Lenient.known?]
      | some a =>
        cases second : shape (write a) <;> simp [Lenient.toValue, second, Lenient.known?]

end Parts

/-! The shapes -/

section Shapes

variable {α : Type}

theorem get?_optionalMember (name other : String) (write : α → Value) (a : Option α) :
    Members.get? name (optionalMember other write a).reverse =
      if other = name then a.map write else none := by
  cases a <;> simp [optionalMember, Members.get?]

theorem optionalText?_map (s : Option String) : optionalText? (s.map .text) = some s := by
  cases s <;> rfl

theorem optionalFlag?_map (b : Option Bool) : optionalFlag? (b.map .bool) = some b := by
  cases b <;> rfl

theorem texts?_own (items : List String) : texts? (.array (items.map .text)) = some items := by
  induction items with
  | nil => rfl
  | cons s items ih =>
    simp only [texts?, List.map_cons, List.mapM_cons] at ih ⊢
    rw [ih]
    rfl

theorem choice_kind (k : Kind) : choice Kind.ofName? (.text k.name) = some k := by
  cases k <;> decide

theorem choice_mode (m : Mode) : choice Mode.ofName? (.text m.name) = some m := by
  cases m <;> decide

theorem location_own (place : Location) : Location.read? place.toValue = some place := by
  simp [Location.read?, Location.toValue, Value.record, part?, Members.get?_ofList,
    Members.get?_append, get?_optionalMember, optionalText?_map]

theorem registration_own (r : Registration) : Registration.read? r.toValue = some r := by
  simp [Registration.read?, Registration.toValue, Value.record, part?, Members.get?_ofList,
    Members.get?_append, get?_optionalMember, optionalText?_map, optionalFlag?_map]

/-- What the dates of a listing read as once they are written. -/
def Dates.again (d : Dates) : Dates :=
  let again := fun date : Option (Lenient Time.Instant) =>
    Lenient.readOptional Value.instant? (date.map (Lenient.toValue Document.stampValue))
  ⟨again d.start, again d.finish, again d.deadline⟩

theorem dates_again (d : Dates) : Dates.read? d.toValue = some d.again := by
  simp [Dates.read?, Dates.toValue, Dates.again, Value.record, part?, Members.get?_ofList,
    Members.get?_append, get?_optionalMember]

theorem optionalMember_congr (name : String) {write : α → Value} {a b : Option α}
    (same : a.map write = b.map write) : optionalMember name write a = optionalMember name write b := by
  cases a <;> cases b <;> simp_all [optionalMember]

theorem stampValue_ne_null (t : Time.Instant) : Document.stampValue t ≠ .null := nofun

theorem settles_stamps : Settles Value.instant? Document.stampValue := by
  intro v t u read again
  cases v with
  | text s => exact congrArg Value.text (Time.Instant.stamp_of_parse?_stamp read again)
  | null | bool | number | array | object => cases read

theorem settles_dates : Settles Dates.read? Dates.toValue := by
  intro v d other read again
  rw [dates_again] at again
  cases again
  obtain ⟨part, -, read⟩ := Option.bind_eq_some_iff.mp read
  cases read
  have settled := fun name i => optionalMember_congr name
    (map_readOptional_again settles_stamps stampValue_ne_null (part name i))
  simp only [Dates.toValue, Dates.again, settled]

end Shapes

/-! Listings -/

variable {l : Listing} {now : Time.Instant}

/-- Where a record gives the parts of a listing: under their names, or by position. -/
def givenPart (record : Value) : String → Nat → Option Value :=
  match record with
  | .object members => fun name _ => Members.get? name members
  | .array items => fun _ i => items[i]?
  | _ => fun _ _ => none

theorem exists_assemble {record : Value} (accepted : ofValue record = .ok l) :
    ∃ title externalUrl origin, l = assemble title externalUrl origin (givenPart record) := by
  cases record with
  | object members =>
    obtain ⟨url, -, accepted⟩ := bind_eq_ok.mp accepted
    obtain ⟨origin, -, accepted⟩ := bind_eq_ok.mp accepted
    obtain ⟨title, -, accepted⟩ := bind_eq_ok.mp accepted
    cases accepted
    exact ⟨_, _, _, rfl⟩
  | array items =>
    obtain ⟨title, -, accepted⟩ := bind_eq_ok.mp accepted
    obtain ⟨url, -, accepted⟩ := bind_eq_ok.mp accepted
    obtain ⟨origin, -, accepted⟩ := bind_eq_ok.mp accepted
    obtain ⟨_, -, accepted⟩ := bind_eq_ok.mp accepted
    cases accepted
    exact ⟨_, _, _, rfl⟩
  | null | bool | number | text => cases accepted

theorem origin_own (origin : Origin) (stamp : Value) :
    Origin.read (.record (("platform", .text origin.platform) ::
      (optionalMember "source_id" .text origin.sourceId ++ [("last_updated", stamp)]))) =
        .ok origin := by
  obtain ⟨platform, sourceId⟩ := origin
  cases sourceId <;>
    simp [Origin.read, Value.record, optionalMember, Members.get?_ofList, Members.get?,
      Value.memberOr, Value.asText, Value.asOptionalText, bind, Except.bind]

/-- The members under which a document holds the parts of a listing. -/
structure Holds (part : String → Option Value) (l : Listing) : Prop where
  title : part "title" = some (.text l.title)
  description : part "description" = some (l.description.toValue .text)
  organizer : part "organizer" = some (l.organizer.toValue .text)
  kind : part "type" = l.kind.map (Lenient.toValue fun k => .text k.name)
  mode : part "mode" = l.mode.map (Lenient.toValue fun m => .text m.name)
  location : part "location" = some (l.location.toValue Location.toValue)
  dates : part "dates" = some (l.dates.toValue Dates.toValue)
  skills : part "skills_required" =
    some (l.skills.toValue fun items => .array (items.map .text))
  externalUrl : part "external_url" = some (.text l.externalUrl)
  registration : part "registration" = some (l.registration.toValue Registration.toValue)

theorem holds_toDocument (l : Listing) (now : Time.Instant) : Holds (l.toDocument now).member? l := by
  constructor <;>
    simp [toDocument, Value.record, Value.member?, Members.get?_ofList, Members.get?_append,
      get?_optionalMember, Members.get?, Field.isActive]

/-- What a listing reads as once it is stored. -/
def again (l : Listing) (now : Time.Instant) : Listing :=
  assemble l.title l.externalUrl l.origin fun name _ => (l.toDocument now).member? name

theorem ofValue_toDocument (l : Listing) (now : Time.Instant) :
    ofValue (l.toDocument now) = .ok (l.again now) := by
  have holds := holds_toDocument l now
  have source := member?_source l now
  unfold again
  cases doc : l.toDocument now with
  | object members =>
    simp only [doc] at holds source
    have url : Members.get? "external_url" members = _ := holds.externalUrl
    have title : Members.get? "title" members = _ := holds.title
    have source : Members.get? "source" members = _ := source
    simp only [ofValue, url, title, source, Value.memberOr, Value.asText, origin_own]
    rfl
  | null | bool | number | text | array => cases doc

/-- What is stored of a listing, but for its source and its activity, are the parts. -/
theorem Holds.member?_toDocument {part : String → Option Value} {a b : Listing}
    (first : Holds part a) (second : Holds part b) (origin : a.origin = b.origin)
    (now : Time.Instant) {name : String} (other : name ≠ Field.isActive) :
    (a.toDocument now).member? name = (b.toDocument now).member? name := by
  have title := Option.some.inj (first.title.symm.trans second.title)
  have description := Option.some.inj (first.description.symm.trans second.description)
  have organizer := Option.some.inj (first.organizer.symm.trans second.organizer)
  have kind := first.kind.symm.trans second.kind
  have mode := first.mode.symm.trans second.mode
  have location := Option.some.inj (first.location.symm.trans second.location)
  have dates := Option.some.inj (first.dates.symm.trans second.dates)
  have skills := Option.some.inj (first.skills.symm.trans second.skills)
  have url := Option.some.inj (first.externalUrl.symm.trans second.externalUrl)
  have registration := Option.some.inj (first.registration.symm.trans second.registration)
  have activity : (Field.isActive == name) = false := by simpa using Ne.symm other
  simp only [toDocument, Value.record, Value.member?, Members.get?_ofList, List.reverse_append,
    List.reverse_cons, List.reverse_nil, List.nil_append, List.append_assoc, Members.get?_append,
    get?_optionalMember, Members.get?, activity, title, description, organizer, kind, mode,
    location, dates, skills, url, origin, registration, Bool.false_eq_true, if_false]

/-- The document of a listing that was read holds the parts of the listing it reads as. -/
theorem holds_again {record : Value} (accepted : ofValue record = .ok l) (now : Time.Instant) :
    Holds (l.toDocument now).member? (l.again now) := by
  obtain ⟨title, url, origin, same⟩ := exists_assemble accepted
  have holds := holds_toDocument l now
  have texts : Settles Value.text? .text := settles_of_inverse fun _ => rfl
  have kinds : Settles (choice Kind.ofName?) fun k => .text k.name := settles_of_inverse choice_kind
  have modes : Settles (choice Mode.ofName?) fun m => .text m.name := settles_of_inverse choice_mode
  have places : Settles Location.read? Location.toValue := settles_of_inverse location_own
  have lists : Settles texts? fun items => .array (items.map .text) := settles_of_inverse texts?_own
  have registrations : Settles Registration.read? Registration.toValue :=
    settles_of_inverse registration_own
  exact {
    title := holds.title
    description := held_readOr texts rfl (congrArg description same) holds.description
    organizer := held_readOr texts rfl (congrArg organizer same) holds.organizer
    kind := held_readOptional kinds (fun _ => nofun) (congrArg kind same) holds.kind
    mode := held_readOptional modes (fun _ => nofun) (congrArg mode same) holds.mode
    location := held_readOr places rfl (congrArg Listing.location same) holds.location
    dates := held_readOr settles_dates rfl (congrArg dates same) holds.dates
    skills := held_readOr lists rfl (congrArg skills same) holds.skills
    externalUrl := holds.externalUrl
    registration := held_readOr registrations rfl (congrArg registration same) holds.registration }

theorem finish_again {v : Value} {d : Dates} (read : Dates.read? v = some d) :
    d.again.finish.bind Lenient.known? =
      (d.finish.bind Lenient.known?).bind fun t => Time.Instant.parse? t.stamp := by
  obtain ⟨part, -, read⟩ := Option.bind_eq_some_iff.mp read
  cases read
  exact known?_readOptional_again stampValue_ne_null (part "end_date" 1)

theorem endDate?_again {record : Value} (accepted : ofValue record = .ok l) (now : Time.Instant) :
    (l.again now).endDate? = l.endDate?.bind fun t => Time.Instant.parse? t.stamp := by
  obtain ⟨title, url, origin, same⟩ := exists_assemble accepted
  have stored : (l.again now).dates =
      Lenient.read Dates.read? (l.dates.toValue Dates.toValue) := by
    rw [← Lenient.readOr, ← (holds_toDocument l now).dates]
    rfl
  have read : l.dates = Lenient.readOr Dates.read? {} (givenPart record "dates" 6) :=
    congrArg dates same
  unfold endDate?
  rw [stored]
  cases found : givenPart record "dates" 6 with
  | none =>
    rw [read, found]
    rfl
  | some v =>
    rw [read, found, Lenient.readOr]
    cases first : Dates.read? v with
    | none => simp [Lenient.read, first, Lenient.toValue, Lenient.known?]
    | some d =>
      simpa [Lenient.read, first, Lenient.toValue, dates_again, Lenient.known?] using
        finish_again first

/-- A listing that was read is stored as a document that reads as a listing again, and that one is
stored as the same document but for its activity. The activity follows the end, which is then what
its stamp reads as. -/
theorem stored_listing_settles (record : Value) (l : Listing) (now : Time.Instant)
    (accepted : ofValue record = .ok l) :
    ∃ again, ofValue (l.toDocument now) = .ok again ∧
      (∀ name, name ≠ Field.isActive →
        (again.toDocument now).member? name = (l.toDocument now).member? name) ∧
      again.endDate? = l.endDate?.bind fun t => Time.Instant.parse? t.stamp := by
  refine ⟨l.again now, ofValue_toDocument l now, ?_, endDate?_again accepted now⟩
  intro name other
  exact (holds_again accepted now).member?_toDocument (holds_toDocument l now) rfl now other

/-- Dates by position, the end of which lies in the year 10000 of Universal Time. -/
def turnMembers : Members :=
  [("dates", .array [.text "2027-01-20", .text "9999-12-31T23:59:59-01:00"]),
    ("external_url", .text "u"), ("location", .text "Pune"),
    ("type", .object [("hackathon", .null)])]

def turnListing : Listing := assemble "" "u" {} fun name _ => Members.get? name turnMembers

/-- A time after that end. -/
def afterTurn : Time.Instant := ⟨253402305000, 0⟩

theorem stored_listing_settles_turn :
    ofValue (.object turnMembers) = .ok turnListing ∧
      turnListing.isActiveAt afterTurn = false ∧
      ∃ again, ofValue (turnListing.toDocument afterTurn) = .ok again ∧
        (∀ name, name ≠ Field.isActive → (again.toDocument afterTurn).member? name =
          (turnListing.toDocument afterTurn).member? name) ∧
        again.endDate? = none ∧ again.isActiveAt afterTurn = true := by
  have accepted : ofValue (.object turnMembers) = .ok turnListing := rfl
  have unread : (turnListing.endDate?.bind fun t => Time.Instant.parse? t.stamp) = none := by
    decide +kernel
  obtain ⟨again, read, same, finish⟩ :=
    stored_listing_settles (.object turnMembers) turnListing afterTurn accepted
  rw [unread] at finish
  refine ⟨accepted, by decide +kernel, again, read, same, finish, ?_⟩
  rw [isActiveAt, finish]

end Catalog.Listing
