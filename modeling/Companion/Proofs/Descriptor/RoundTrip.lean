import Companion.Descriptor.OfJson
import Companion.Descriptor.ToJson
import Companion.Proofs.Json.Members

/-!
# Descriptors come back from their JSON values

A descriptor is written with one member for each field, an absent description being left out. It is
read back from these members in any order, so also after they were sorted by name: the names, the
capabilities and the references to types from their plain texts, the kind from its tag, the
properties one by one.
-/

namespace Companion

open Json (Value)

theorem TypeRef.ofJson_canonicalName (ref : TypeRef) :
    TypeRef.ofJson (.string ref.canonicalName) = .ok ref := by
  have named : TypeRef.ofName ref.canonicalName = .ok ref := by
    rw [ofName, parse_canonicalName]
  exact named

theorem Kind.ofJson_tag (kind : Kind) : Kind.ofJson (.string kind.tag) = .ok kind := by
  rw [ofJson, ofName, ofTag?_tag]

/-- A list is read back if each of its items is. -/
theorem Json.Value.list_array_map {α : Type} {read : Value → Except Mismatch α}
    {write : α → Value} (back : ∀ item, read (write item) = .ok item) (items : List α) :
    Value.list read (.array (items.map write)) = .ok items := by
  rw [Value.list]
  induction items with
  | nil => rfl
  | cons item rest ih =>
      rw [List.map_cons, List.mapM_cons, back, ih]
      rfl

/-- What was not read of a field that can be left out is what the field is without it. -/
theorem getD_ite {α : Type} {read : Prop} [Decidable read] {value absent : α}
    (complete : read ∨ value = absent) : (if read then some value else none).getD absent = value := by
  by_cases done : read
  · rw [if_pos done, Option.getD_some]
  · rw [if_neg done, Option.getD_none, complete.resolve_left done]

namespace Property

def fields : Json.Fields Field Draft Property where
  all := Field.all
  key := Field.key
  ofKey? := Field.ofKey?
  has := Draft.has
  read := Draft.read
  finish := Draft.finish
  mem_all field := by cases field <;> decide
  nodup_all := by decide
  ofKey?_key := Field.ofKey?_key
  key_of_ofKey? known := by simpa using List.find?_some known

def draftOf (property : Property) (done : List Field) : Draft where
  name := if .name ∈ done then some property.name else none
  type := if .type ∈ done then some property.type else none
  description := if .description ∈ done then some property.description else none

def Field.Reads (property : Property) : Field → Value → Prop
  | .name, value => value.text = .ok property.name
  | .type, value => TypeRef.ofJson value = .ok property.type
  | .description, value => value.optionalText = .ok property.description

def Field.Omissible (property : Property) : Field → Prop
  | .name => False
  | .type => False
  | .description => property.description = none

theorem finish_draftOf {property : Property} {done : List Field}
    (complete : ∀ field, field ∈ done ∨ Field.Omissible property field) :
    (property.draftOf done).finish = .ok property := by
  have named : Field.name ∈ done := (complete .name).resolve_right id
  have typed : Field.type ∈ done := (complete .type).resolve_right id
  have description := getD_ite (complete .description)
  rw [draftOf, if_pos named, if_pos typed, Draft.finish, description]

/-- The way to a property. Only the description can be left out. -/
def route (property : Property) : fields.Route property where
  draft := property.draftOf
  Reads := Field.Reads property
  Omissible := Field.Omissible property
  has_draft done field := by
    cases field <;> simp [fields, Draft.has, draftOf]
  read_draft done field value reads := by
    cases field <;> simp only [Field.Reads] at reads <;>
      simp [fields, Draft.read, reads, draftOf]
  finish_draft _ complete := finish_draftOf complete

def Field.value? (property : Property) : Field → Option Value
  | .name => some (.string property.name)
  | .type => some (.string property.type.canonicalName)
  | .description => property.description.map .string

theorem toJson_eq (property : Property) :
    property.toJson = .object (fields.members (Field.value? property)) := by
  obtain ⟨name, type, description⟩ := property
  cases description <;> rfl

theorem reads_of_value? {property : Property} {field : Field} {value : Value}
    (written : Field.value? property field = some value) : Field.Reads property field value := by
  cases field with
  | name =>
      cases written
      rfl
  | type =>
      cases written
      exact TypeRef.ofJson_canonicalName property.type
  | description =>
      obtain ⟨text, present, rfl⟩ := Option.map_eq_some_iff.mp written
      rw [Field.Reads, present]
      rfl

theorem omissible_of_value? {property : Property} {field : Field}
    (absent : Field.value? property field = none) : Field.Omissible property field := by
  cases field with
  | name => cases absent
  | type => cases absent
  | description => exact Option.map_eq_none_iff.mp absent

theorem readMember_fields : fields.readMember = Draft.readMember := by
  funext draft member
  unfold Json.Fields.readMember Draft.readMember
  dsimp only [fields]
  cases Field.ofKey? member.1 <;> rfl

theorem ofJson_of_perm {property : Property} {members : List (String × Value)}
    (order : members.Perm (fields.members (Field.value? property))) :
    ofJson (.object members) = .ok property := by
  have read := property.route.read_members (fun _ _ => reads_of_value?)
    (fun _ => omissible_of_value?) order
  rw [readMember_fields] at read
  exact read

theorem canonical_value? (property : Property) (field : Field) :
    (Field.value? property field).map Value.canonical = Field.value? property field := by
  obtain ⟨name, type, description⟩ := property
  cases field with
  | name => rfl
  | type => rfl
  | description => cases description <;> rfl

theorem ofJson_toJson (property : Property) : ofJson property.toJson = .ok property := by
  rw [toJson_eq]
  exact ofJson_of_perm (List.Perm.refl _)

theorem ofJson_canonical_toJson (property : Property) :
    ofJson property.toJson.canonical = .ok property := by
  obtain ⟨sorted, same, order⟩ := fields.canonical_members (Field.value? property)
  simp only [canonical_value?] at order
  rw [toJson_eq, same]
  exact ofJson_of_perm order

end Property

namespace Descriptor

def fields : Json.Fields Field Draft Descriptor where
  all := Field.all
  key := Field.key
  ofKey? := Field.ofKey?
  has := Draft.has
  read := Draft.read
  finish := Draft.finish
  mem_all field := by cases field <;> decide
  nodup_all := by decide
  ofKey?_key := Field.ofKey?_key
  key_of_ofKey? known := by simpa using List.find?_some known

def draftOf (d : Descriptor) (done : List Field) : Draft where
  name := if .name ∈ done then some d.name else none
  qualifiedName := if .qualifiedName ∈ done then some d.qualifiedName else none
  capabilities := if .capabilities ∈ done then some d.capabilities else none
  kind := if .kind ∈ done then some d.kind else none
  properties := if .properties ∈ done then some d.properties else none
  description := if .description ∈ done then some d.description else none

def Field.Reads (d : Descriptor) : Field → Value → Prop
  | .name, value => value.text = .ok d.name
  | .qualifiedName, value => value.text = .ok d.qualifiedName
  | .capabilities, value => value.list Value.text = .ok d.capabilities
  | .kind, value => Kind.ofJson value = .ok d.kind
  | .properties, value => value.list Property.ofJson = .ok d.properties
  | .description, value => value.optionalText = .ok d.description

def Field.Omissible (d : Descriptor) : Field → Prop
  | .name => False
  | .qualifiedName => False
  | .capabilities => d.capabilities = []
  | .kind => d.kind = .structuralType
  | .properties => d.properties = []
  | .description => d.description = none

theorem finish_draftOf {d : Descriptor} {done : List Field}
    (complete : ∀ field, field ∈ done ∨ Field.Omissible d field) :
    (d.draftOf done).finish = .ok d := by
  have named : Field.name ∈ done := (complete .name).resolve_right id
  have qualified : Field.qualifiedName ∈ done := (complete .qualifiedName).resolve_right id
  have capabilities := getD_ite (complete .capabilities)
  have kind := getD_ite (complete .kind)
  have properties := getD_ite (complete .properties)
  have description := getD_ite (complete .description)
  rw [draftOf, if_pos named, if_pos qualified, Draft.finish, capabilities, kind, properties,
    description]

/-- The way to a descriptor. Only the two names cannot be left out. -/
def route (d : Descriptor) : fields.Route d where
  draft := d.draftOf
  Reads := Field.Reads d
  Omissible := Field.Omissible d
  has_draft done field := by
    cases field <;> simp [fields, Draft.has, draftOf]
  read_draft done field value reads := by
    cases field <;> simp only [Field.Reads] at reads <;>
      simp [fields, Draft.read, reads, draftOf]
  finish_draft _ complete := finish_draftOf complete

def Field.value? (write : Property → Value) (d : Descriptor) : Field → Option Value
  | .name => some (.string d.name)
  | .qualifiedName => some (.string d.qualifiedName)
  | .capabilities => some (.array (d.capabilities.map .string))
  | .kind => some (.string d.kind.tag)
  | .properties => some (.array (d.properties.map write))
  | .description => d.description.map .string

theorem toJson_eq (d : Descriptor) :
    d.toJson = .object (fields.members (Field.value? Property.toJson d)) := by
  obtain ⟨name, qualifiedName, capabilities, kind, properties, description⟩ := d
  cases description <;> rfl

section

variable {d : Descriptor} {write : Property → Value}

theorem reads_of_value? (back : ∀ property, Property.ofJson (write property) = .ok property)
    {field : Field} {value : Value} (written : Field.value? write d field = some value) :
    Field.Reads d field value := by
  cases field with
  | name =>
      cases written
      rfl
  | qualifiedName =>
      cases written
      rfl
  | capabilities =>
      cases written
      have back (text : String) : Value.text (.string text) = .ok text := rfl
      exact Value.list_array_map back d.capabilities
  | kind =>
      cases written
      exact Kind.ofJson_tag d.kind
  | properties =>
      cases written
      exact Value.list_array_map back d.properties
  | description =>
      obtain ⟨text, present, rfl⟩ := Option.map_eq_some_iff.mp written
      rw [Field.Reads, present]
      rfl

theorem omissible_of_value? {field : Field} (absent : Field.value? write d field = none) :
    Field.Omissible d field := by
  cases field with
  | description => exact Option.map_eq_none_iff.mp absent
  | _ => cases absent

theorem readMember_fields : fields.readMember = Draft.readMember := by
  funext draft member
  unfold Json.Fields.readMember Draft.readMember
  dsimp only [fields]
  cases Field.ofKey? member.1 <;> rfl

theorem ofJson_of_perm (back : ∀ property, Property.ofJson (write property) = .ok property)
    {members : List (String × Value)}
    (order : members.Perm (fields.members (Field.value? write d))) :
    ofJson (.object members) = .ok d := by
  have read := d.route.read_members (fun _ _ => reads_of_value? back)
    (fun _ => omissible_of_value?) order
  rw [readMember_fields] at read
  exact read

theorem canonical_value? (write : Property → Value) (d : Descriptor) (field : Field) :
    (Field.value? write d field).map Value.canonical =
      Field.value? (fun property => (write property).canonical) d field := by
  obtain ⟨name, qualifiedName, capabilities, kind, properties, description⟩ := d
  cases field with
  | capabilities =>
      rw [Field.value?, Option.map_some, Value.canonical_array, List.map_map]
      rfl
  | properties =>
      rw [Field.value?, Option.map_some, Value.canonical_array, List.map_map]
      rfl
  | description => cases description <;> rfl
  | _ => rfl

end

theorem ofJson_toJson (d : Descriptor) : ofJson d.toJson = .ok d := by
  rw [toJson_eq]
  exact ofJson_of_perm Property.ofJson_toJson (List.Perm.refl _)

theorem ofJson_canonical_toJson (d : Descriptor) : ofJson d.toJson.canonical = .ok d := by
  obtain ⟨sorted, same, order⟩ := fields.canonical_members (Field.value? Property.toJson d)
  simp only [canonical_value?] at order
  rw [toJson_eq, same]
  exact ofJson_of_perm Property.ofJson_canonical_toJson order

/-- Every descriptor is read back from its JSON value, whether the members of its objects stand in
the order of their declaration or sorted by name. Capabilities and references to types are written
as plain texts, and a description is a member exactly if there is one. -/
theorem json_round_trip (d : Descriptor) :
    ofJson d.toJson = .ok d ∧
    ofJson d.toJson.canonical = .ok d ∧
    d.toJson.member? "implemented_capabilities" = some (.array (d.capabilities.map .string)) ∧
    d.toJson.member? "properties" = some (.array (d.properties.map Property.toJson)) ∧
    d.toJson.member? "description" = d.description.map .string ∧
    ∀ property : Property,
      property.toJson.member? "type" = some (.string property.type.canonicalName) ∧
      property.toJson.member? "description" = property.description.map .string ∧
      TypeRef.ofJson (.string property.type.canonicalName) = .ok property.type := by
  have described : d.toJson.member? "description" = d.description.map .string := by
    obtain ⟨name, qualifiedName, capabilities, kind, properties, description⟩ := d
    cases description <;> rfl
  refine ⟨ofJson_toJson d, ofJson_canonical_toJson d, rfl, rfl, described, ?_⟩
  intro property
  have remarked :
      property.toJson.member? "description" = property.description.map .string := by
    obtain ⟨name, type, description⟩ := property
    cases description <;> rfl
  exact ⟨rfl, remarked, TypeRef.ofJson_canonicalName property.type⟩

end Descriptor

end Companion
