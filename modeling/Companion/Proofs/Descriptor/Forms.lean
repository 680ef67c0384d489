import Companion.Proofs.Descriptor.RoundTrip
import Companion.Proofs.Json.Forms

/-!
# Descriptors and properties as objects and as arrays

Descriptors and their properties are read from objects and from arrays as all records are. Members
that belong to no field can be put into a descriptor and into the properties inside of it.
-/

namespace Companion

open Json (Value)

namespace Property

theorem ofJson_eq (value : Value) :
    ofJson value = fields.ofValue {} 2 .propertyItems .property value := by
  cases value with
  | object members =>
      rw [ofJson, Json.Fields.ofValue, readMember_fields]
      rfl
  | _ => rfl

def Field.Content : Field → Type
  | .name => String
  | .type => TypeRef
  | .description => Option String

def slots : fields.Slots where
  Content := Field.Content
  decode
    | .name, value => value.text
    | .type, value => TypeRef.ofJson value
    | .description, value => value.optionalText
  put
    | .name, name, draft => { draft with name := some name }
    | .type, type, draft => { draft with type := some type }
    | .description, description, draft => { draft with description := some description }
  read_eq draft field value := by
    cases field with
    | name => cases value.text <;> rfl
    | type => cases TypeRef.ofJson value <;> rfl
    | description => cases value.optionalText <;> rfl
  empty := {}
  has_empty field := by cases field <;> exact nofun
  has_put draft field content other := by
    cases field <;> cases other <;>
      first | exact iff_of_true rfl (.inl rfl) | exact (or_iff_right nofun).symm
  put_comm draft field other content contents different := by
    cases field <;> cases other <;> first | rfl | exact absurd rfl different

theorem formsAgree : Json.FormsAgree ofJson (Field.all.map Field.key) 2 := by
  rw [show ofJson = fields.ofValue {} 2 .propertyItems .property from funext ofJson_eq]
  exact slots.formsAgree_ofValue 2 _ _

/-- The second value is the first one with further members that belong to no field of a property. -/
def Padded : Value → Value → Prop :=
  fields.Padded fun _ _ _ => False

theorem Padded.ofJson_eq {value other : Value} (padded : Padded value other) :
    ofJson other = ofJson value := by
  rw [Property.ofJson_eq, Property.ofJson_eq]
  exact Json.Fields.Padded.ofValue_eq padded False.elim {} 2 _ _

end Property

namespace Descriptor

theorem ofJson_eq (value : Value) :
    ofJson value = fields.ofValue {} 2 .descriptorItems .descriptor value := by
  cases value with
  | object members =>
      rw [ofJson, Json.Fields.ofValue, readMember_fields]
      rfl
  | _ => rfl

def Field.Content : Field → Type
  | .name => String
  | .qualifiedName => String
  | .capabilities => List String
  | .kind => Kind
  | .properties => List Property
  | .description => Option String

def slots : fields.Slots where
  Content := Field.Content
  decode
    | .name, value => value.text
    | .qualifiedName, value => value.text
    | .capabilities, value => value.list Value.text
    | .kind, value => Kind.ofJson value
    | .properties, value => value.list Property.ofJson
    | .description, value => value.optionalText
  put
    | .name, name, draft => { draft with name := some name }
    | .qualifiedName, name, draft => { draft with qualifiedName := some name }
    | .capabilities, capabilities, draft => { draft with capabilities := some capabilities }
    | .kind, kind, draft => { draft with kind := some kind }
    | .properties, properties, draft => { draft with properties := some properties }
    | .description, description, draft => { draft with description := some description }
  read_eq draft field value := by
    cases field with
    | name => cases value.text <;> rfl
    | qualifiedName => cases value.text <;> rfl
    | capabilities => cases value.list Value.text <;> rfl
    | kind => cases Kind.ofJson value <;> rfl
    | properties => cases value.list Property.ofJson <;> rfl
    | description => cases value.optionalText <;> rfl
  empty := {}
  has_empty field := by cases field <;> exact nofun
  has_put draft field content other := by
    cases field <;> cases other <;>
      first | exact iff_of_true rfl (.inl rfl) | exact (or_iff_right nofun).symm
  put_comm draft field other content contents different := by
    cases field <;> cases other <;> first | rfl | exact absurd rfl different

theorem formsAgree : Json.FormsAgree ofJson (Field.all.map Field.key) 2 := by
  rw [show ofJson = fields.ofValue {} 2 .descriptorItems .descriptor from funext ofJson_eq]
  exact slots.formsAgree_ofValue 2 _ _

/-- Inside of a descriptor only its properties hold further members. -/
inductive Field.Padded : Field → Value → Value → Prop
  | properties {items others : List Value} : List.Forall₂ Property.Padded items others →
      Field.Padded .properties (.array items) (.array others)

def Padded : Value → Value → Prop :=
  fields.Padded Field.Padded

theorem mapM_ofJson_of_padded {items others : List Value}
    (padded : List.Forall₂ Property.Padded items others) :
    others.mapM Property.ofJson = items.mapM Property.ofJson := by
  induction padded with
  | nil => rfl
  | cons first _ ih => rw [List.mapM_cons, List.mapM_cons, first.ofJson_eq, ih]

theorem unnoticed_padded : fields.Unnoticed Field.Padded := by
  intro field value other padded draft
  cases padded with
  | @properties items others inside =>
      have listed : (Value.array others).list Property.ofJson =
          (Value.array items).list Property.ofJson := mapM_ofJson_of_padded inside
      rw [slots.read_eq, slots.read_eq]
      exact congrArg _ listed

theorem Padded.ofJson_eq {value other : Value} (padded : Padded value other) :
    ofJson other = ofJson value := by
  rw [Descriptor.ofJson_eq, Descriptor.ofJson_eq]
  exact Json.Fields.Padded.ofValue_eq padded unnoticed_padded {} 2 _ _

end Descriptor

end Companion
