import Catalog.Proofs.Listing.Normal

/-!
Parts of a listing that do not have the type they are documented to have. Such a part is stored as
it was sent, unless it is recast: a choice may also be given as the one member of an object, and the
fields of a block by position in an array. A part that is recast is stored in the documented type.
-/
namespace Catalog.Listing

open Json

/-- The parts that are read leniently. -/
inductive Part where
  | description | organizer | kind | mode | location | dates | skills | registration
  deriving DecidableEq, Repr

/-- A value that says something: null does not. -/
def present? : Value → Option Value
  | .null => none
  | v => some v

namespace Part

def name : Part → String
  | .description => "description"
  | .organizer => "organizer"
  | .kind => "type"
  | .mode => "mode"
  | .location => "location"
  | .dates => "dates"
  | .skills => "skills_required"
  | .registration => "registration"

/-- Where the part stands in an array that gives the parts by position. -/
def place : Part → Nat
  | .description => 1
  | .organizer => 2
  | .kind => 3
  | .mode => 4
  | .location => 5
  | .dates => 6
  | .skills => 7
  | .registration => 10

/-- The value that a record sends for the part. -/
def sent? (p : Part) (record : Value) : Option Value :=
  givenPart record p.name p.place

/-- The value has the type that the part is documented to have. -/
def Documented : Part → Value → Prop
  | .description, v | .organizer, v | .kind, v | .mode, v => ∃ s, v = .text s
  | .location, v | .dates, v | .registration, v => ∃ members, v = .object members
  | .skills, v => ∃ items : List String, v = .array (items.map .text)

/-- What a document holds of a part that is kept as it was sent. A null choice is absent. -/
def kept : Part → Value → Option Value
  | .kind, v | .mode, v => present? v
  | .description, v | .organizer, v | .location, v | .dates, v | .skills, v
  | .registration, v => some v

/-- What is stored of a value that is recognised as the part. -/
def recognised? : Part → Value → Option Value
  | .description, v | .organizer, v => (Value.text? v).map .text
  | .kind, v => (choice Kind.ofName? v).map fun k => .text k.name
  | .mode, v => (choice Mode.ofName? v).map fun m => .text m.name
  | .location, v => (Location.read? v).map Location.toValue
  | .dates, v => (Dates.read? v).map Dates.toValue
  | .skills, v => (texts? v).map fun items => .array (items.map .text)
  | .registration, v => (Registration.read? v).map Registration.toValue

end Part

/-- The element of an array gives a text, or nothing. -/
def GivesText (item : Value) : Prop := item = .null ∨ ∃ s, item = .text s

/-- The element of an array gives a flag, or nothing. -/
def GivesFlag (item : Value) : Prop := item = .null ∨ ∃ b, item = .bool b

/-- Values that do not have the documented type of a part and are recognised as the part. -/
inductive Recast : Part → Value → Prop
  | kind (k : Kind) : Recast .kind (.object [(k.name, .null)])
  | mode (m : Mode) : Recast .mode (.object [(m.name, .null)])
  | location {items : List Value} (few : items.length ≤ 4)
      (fields : ∀ item ∈ items, GivesText item) : Recast .location (.array items)
  | dates {items : List Value} (few : items.length ≤ 3) : Recast .dates (.array items)
  | registration {items : List Value} (few : items.length ≤ 2)
      (isOpen : ∀ item ∈ items[0]?, GivesFlag item) (url : ∀ item ∈ items[1]?, GivesText item) :
      Recast .registration (.array items)

/-! What is recognised -/

theorem present?_of_ne_null {v : Value} (held : v ≠ .null) : present? v = some v := by
  cases v with
  | null => exact absurd rfl held
  | bool | number | text | array | object => rfl

theorem optionalText?_isSome (part : Option Value) :
    (optionalText? part).isSome ↔ ∀ item ∈ part, GivesText item := by
  unfold GivesText
  cases part with
  | none => simp [optionalText?]
  | some v => cases v <;> simp [optionalText?]

theorem optionalFlag?_isSome (part : Option Value) :
    (optionalFlag? part).isSome ↔ ∀ item ∈ part, GivesFlag item := by
  unfold GivesFlag
  cases part with
  | none => simp [optionalFlag?]
  | some v => cases v <;> simp [optionalFlag?]

theorem isSome_location (items : List Value) :
    (Location.read? (.array items)).isSome ↔
      items.length ≤ 4 ∧ ∀ item ∈ items, GivesText item := by
  unfold Location.read? part?
  by_cases few : items.length ≤ 4
  · simp only [few, true_and, if_true, bind, Option.bind_some, Option.isSome_bind,
      Option.any_eq_true, Option.isSome_some, exists_and_right, and_true,
      ← Option.isSome_iff_exists, optionalText?_isSome, List.mem_iff_getElem?]
    constructor
    · rintro ⟨city, state, country, venue⟩ item ⟨i, found⟩
      have place : i < 4 := lt_of_lt_of_le (List.getElem?_eq_some_iff.mp found).1 few
      match i with
      | 0 => exact city item found
      | 1 => exact state item found
      | 2 => exact country item found
      | 3 => exact venue item found
    · intro fields
      exact ⟨fun item found => fields item ⟨0, found⟩, fun item found => fields item ⟨1, found⟩,
        fun item found => fields item ⟨2, found⟩, fun item found => fields item ⟨3, found⟩⟩
  · simp [few]

theorem isSome_dates (items : List Value) :
    (Dates.read? (.array items)).isSome ↔ items.length ≤ 3 := by
  unfold Dates.read? part?
  by_cases few : items.length ≤ 3 <;> simp [few]

theorem isSome_registration (items : List Value) :
    (Registration.read? (.array items)).isSome ↔
      items.length ≤ 2 ∧ (∀ item ∈ items[0]?, GivesFlag item) ∧
        ∀ item ∈ items[1]?, GivesText item := by
  unfold Registration.read? part?
  by_cases few : items.length ≤ 2
  · simp only [few, true_and, if_true, bind, Option.bind_some, Option.isSome_bind,
      Option.any_eq_true, Option.isSome_some, exists_and_right, and_true,
      ← Option.isSome_iff_exists, optionalText?_isSome, optionalFlag?_isSome]
  · simp [few]

/-- A choice is given by the name itself, or by an object with no more than the name. -/
theorem eq_of_choice {α : Type} {all : List α} {name : α → String} {v : Value} {a : α}
    (chosen : choice (fun s => all.find? fun a => name a == s) v = some a) :
    (∃ s, v = .text s) ∨ v = .object [(name a, .null)] := by
  unfold choice at chosen
  split at chosen
  · exact .inl ⟨_, rfl⟩
  · have named := List.find?_some chosen
    rw [beq_iff_eq] at named
    exact .inr (by rw [named])
  · cases chosen

theorem eq_of_text? {v : Value} {s : String} (read : v.text? = some s) : v = .text s := by
  cases v with
  | text t => exact congrArg Value.text (Option.some.inj read)
  | null | bool | number | array | object => cases read

theorem eq_of_texts? {v : Value} {texts : List String} (listed : texts? v = some texts) :
    v = .array (texts.map .text) := by
  cases v with
  | array items =>
    refine congrArg Value.array ?_
    simp only [texts?] at listed
    induction items generalizing texts with
    | nil =>
      cases listed
      rfl
    | cons item items ih =>
      simp only [List.mapM_cons, bind, Option.bind_eq_some_iff] at listed
      obtain ⟨s, first, rest, others, joined⟩ := listed
      cases joined
      rw [List.map_cons, ← eq_of_text? first, ← ih others]
  | null | bool | number | text | object => cases listed

namespace Part

theorem documented_of_recognised? {p : Part} {v w : Value} (known : p.recognised? v = some w) :
    p.Documented w := by
  cases p <;> obtain ⟨a, -, rfl⟩ := Option.map_eq_some_iff.mp known
  case description | organizer | kind | mode => exact ⟨_, rfl⟩
  case location | dates | registration => exact ⟨_, rfl⟩
  case skills => exact ⟨_, rfl⟩

theorem recast_of_recognised? {p : Part} {v : Value} (known : (p.recognised? v).isSome)
    (undocumented : ¬ p.Documented v) : Recast p v := by
  cases p <;> rw [recognised?, Option.isSome_map] at known
  case description | organizer =>
    obtain ⟨s, read⟩ := Option.isSome_iff_exists.mp known
    exact absurd ⟨s, eq_of_text? read⟩ undocumented
  case kind =>
    obtain ⟨k, chosen⟩ := Option.isSome_iff_exists.mp known
    obtain text | rfl := eq_of_choice chosen
    · exact absurd text undocumented
    · exact .kind k
  case mode =>
    obtain ⟨m, chosen⟩ := Option.isSome_iff_exists.mp known
    obtain text | rfl := eq_of_choice chosen
    · exact absurd text undocumented
    · exact .mode m
  case skills =>
    obtain ⟨texts, listed⟩ := Option.isSome_iff_exists.mp known
    exact absurd ⟨texts, eq_of_texts? listed⟩ undocumented
  -- A block is an object, or its fields are given by position.
  all_goals
    cases v with
    | object members => exact absurd ⟨members, rfl⟩ undocumented
    | null | bool | number | text => cases known
    | array items => ?_
  case location.array =>
    obtain ⟨few, fields⟩ := (isSome_location items).mp known
    exact .location few fields
  case dates => exact .dates ((isSome_dates items).mp known)
  case registration =>
    obtain ⟨few, isOpen, url⟩ := (isSome_registration items).mp known
    exact .registration few isOpen url

theorem recognised?_of_recast {p : Part} {v : Value} (recast : Recast p v) :
    (p.recognised? v).isSome := by
  cases recast with
  | kind k => cases k <;> rfl
  | mode m => cases m <;> rfl
  | location few fields => simpa [recognised?] using (isSome_location _).mpr ⟨few, fields⟩
  | dates few => simpa [recognised?] using (isSome_dates _).mpr few
  | registration few isOpen url =>
    simpa [recognised?] using (isSome_registration _).mpr ⟨few, isOpen, url⟩

theorem kept_of_recast {p : Part} {v : Value} (recast : Recast p v) : p.kept v = some v := by
  cases recast <;> rfl

theorem kept_eq_none_or (p : Part) (v : Value) : p.kept v = none ∨ p.kept v = some v := by
  cases p
  case kind | mode => cases v <;> simp [kept, present?]
  all_goals exact .inr rfl

end Part

/-! What is stored -/

section Stored

variable {α : Type} {shape : Value → Option α} {write : α → Value} {part found : Option Value}
  {v : Value}

theorem toValue_read (v : Value) :
    (Lenient.read shape v).toValue write = ((shape v).map write).getD v := by
  unfold Lenient.read
  cases shape v <;> rfl

theorem stored_readOr {default : α} {a : Lenient α}
    (read : a = Lenient.readOr shape default part) (sent : part = some v)
    (held : found = some (a.toValue write)) : found = some (((shape v).map write).getD v) := by
  rw [held, read, sent, Lenient.readOr, toValue_read]

theorem stored_readOptional {a : Option (Lenient α)}
    (read : a = Lenient.readOptional shape part) (sent : part = some v)
    (held : found = a.map (Lenient.toValue write)) :
    found = (present? v).map fun v => ((shape v).map write).getD v := by
  rw [held, read, sent]
  by_cases null : v = .null
  · subst null
    rfl
  · rw [readOptional_some null, present?_of_ne_null null, Option.map_some, Option.map_some,
      toValue_read]

end Stored

variable {l : Listing} {record : Value} {p : Part} {v : Value}

/-- A document holds of a part what was recognised of it, or else the part as it was sent. -/
theorem member?_part (accepted : ofValue record = .ok l) (sent : p.sent? record = some v)
    (now : Time.Instant) :
    (l.toDocument now).member? p.name = (p.kept v).map fun v => (p.recognised? v).getD v := by
  obtain ⟨title, url, origin, same⟩ := exists_assemble accepted
  have holds := holds_toDocument l now
  cases p with
  | description => exact stored_readOr (congrArg description same) sent holds.description
  | organizer => exact stored_readOr (congrArg organizer same) sent holds.organizer
  | kind => exact stored_readOptional (congrArg kind same) sent holds.kind
  | mode => exact stored_readOptional (congrArg mode same) sent holds.mode
  | location => exact stored_readOr (congrArg Listing.location same) sent holds.location
  | dates => exact stored_readOr (congrArg dates same) sent holds.dates
  | skills => exact stored_readOr (congrArg skills same) sent holds.skills
  | registration => exact stored_readOr (congrArg Listing.registration same) sent holds.registration

/-- A part that does not have its documented type is stored as it was sent just if it is not recast.
One that is recast is stored in the documented type. -/
theorem undocumented_part_kept_iff (record : Value) (l : Listing) (now : Time.Instant) (p : Part)
    (v : Value) (accepted : ofValue record = .ok l) (sent : p.sent? record = some v)
    (undocumented : ¬ p.Documented v) :
    ((l.toDocument now).member? p.name = p.kept v ↔ ¬ Recast p v) ∧
      (Recast p v → ∃ w, p.Documented w ∧ (l.toDocument now).member? p.name = some w) := by
  have stored := member?_part accepted sent now
  by_cases recast : Recast p v
  · obtain ⟨w, known⟩ := Option.isSome_iff_exists.mp (Part.recognised?_of_recast recast)
    have documented := Part.documented_of_recognised? known
    rw [Part.kept_of_recast recast, Option.map_some, known, Option.getD_some] at stored
    refine ⟨iff_of_false ?_ (not_not_intro recast), fun _ => ⟨w, documented, stored⟩⟩
    rw [stored, Part.kept_of_recast recast]
    rintro same
    cases same
    exact undocumented documented
  · have unknown : p.recognised? v = none := by
      by_contra known
      exact recast (Part.recast_of_recognised? (Option.isSome_iff_ne_none.mpr known) undocumented)
    refine ⟨iff_of_true ?_ recast, fun given => absurd given recast⟩
    rw [stored]
    obtain absent | held := Part.kept_eq_none_or p v
    · rw [absent, Option.map_none]
    · rw [held, Option.map_some, unknown, Option.getD_none]

/-- A record that gives a choice as an object and the fields of two blocks by position. -/
def looseMembers : Members :=
  [("external_url", .text "u"), ("location", .array [.text "Pune", .null]),
    ("registration", .array [.bool true, .number (.integer 7)]),
    ("type", .object [("hackathon", .null)])]

def looseListing : Listing := assemble "" "u" {} (givenPart (.object looseMembers))

theorem undocumented_part_kept_iff_loose :
    ofValue (.object looseMembers) = .ok looseListing ∧
      Part.registration.sent? (.object looseMembers) =
        some (.array [.bool true, .number (.integer 7)]) ∧
      ¬ Part.registration.Documented (.array [.bool true, .number (.integer 7)]) ∧
      (looseListing.toDocument ⟨0, 0⟩).member? "registration" =
        some (.array [.bool true, .number (.integer 7)]) ∧
      Part.kind.sent? (.object looseMembers) = some (.object [("hackathon", .null)]) ∧
      ¬ Part.kind.Documented (.object [("hackathon", .null)]) ∧
      ∃ w, Part.kind.Documented w ∧ (looseListing.toDocument ⟨0, 0⟩).member? "type" = some w := by
  have accepted : ofValue (.object looseMembers) = .ok looseListing := rfl
  have unblocked : ¬ Part.registration.Documented (.array [.bool true, .number (.integer 7)]) :=
    nofun
  have unnamed : ¬ Part.kind.Documented (.object [("hackathon", .null)]) := nofun
  refine ⟨accepted, rfl, unblocked, ?_, rfl, unnamed, ?_⟩
  · refine (undocumented_part_kept_iff _ _ ⟨0, 0⟩ .registration _ accepted rfl unblocked).1.mpr ?_
    intro recast
    cases recast with
    | registration few isOpen url => exact absurd (url _ rfl) (by simp [GivesText])
  · exact (undocumented_part_kept_iff _ _ ⟨0, 0⟩ .kind _ accepted rfl unnamed).2 (.kind .hackathon)

/-- A place that is given by position in an array is stored as an object. -/
theorem place_by_position_is_rewritten :
    ofValue (.object looseMembers) = .ok looseListing ∧
      Part.location.sent? (.object looseMembers) = some (.array [.text "Pune", .null]) ∧
      ¬ Part.location.Documented (.array [.text "Pune", .null]) ∧
      (looseListing.toDocument ⟨0, 0⟩).member? "location" =
        some (.record [("city", .text "Pune")]) ∧
      (looseListing.toDocument ⟨0, 0⟩).member? "location" ≠
        Part.location.kept (.array [.text "Pune", .null]) := by
  have stored : (looseListing.toDocument ⟨0, 0⟩).member? "location" =
      some (.record [("city", .text "Pune")]) := by
    rw [(holds_toDocument looseListing _).location]
    rfl
  refine ⟨rfl, rfl, nofun, stored, ?_⟩
  rw [stored]
  nofun

end Catalog.Listing
