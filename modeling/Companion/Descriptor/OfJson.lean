import Companion.Descriptor.Draft
import Companion.Json.Decode

/-!
# Descriptors from JSON values

A descriptor, and each of its properties, is an object with named fields, or an array with the
fields in their declared order. Members of an object are read in order; those with other names
are passed over.
-/

namespace Companion

open Json (Value)

def Kind.ofName (name : String) : Except Mismatch Kind :=
  match Kind.ofTag? name with
  | some kind => .ok kind
  | none => .error (.unknownVariant name (Kind.all.map Kind.tag))

/-- A variant is a tag, or an object whose only member has the tag for its name and holds null. -/
def Kind.ofJson : Value → Except Mismatch Kind
  | .string name => Kind.ofName name
  | .object [(name, value)] => do
      let kind ← Kind.ofName name
      value.nothing
      pure kind
  | .object _ => .error (.wrongValue .map .singleMember)
  | value => value.mismatch .kind

def TypeRef.ofName (name : String) : Except Mismatch TypeRef :=
  match TypeRef.parse name with
  | .ok ref => .ok ref
  | .error refusal => .error (.invalidTypeRef refusal)

def TypeRef.ofJson (value : Value) : Except Mismatch TypeRef := do
  TypeRef.ofName (← value.text)

namespace Property

def Draft.read (draft : Draft) (field : Field) (value : Value) : Except Mismatch Draft :=
  match field with
  | .name => do
      let name ← value.text
      pure { draft with name := some name }
  | .type => do
      let type ← TypeRef.ofJson value
      pure { draft with type := some type }
  | .description => do
      let description ← value.optionalText
      pure { draft with description := some description }

def Draft.readMember (draft : Draft) (member : String × Value) : Except Mismatch Draft :=
  match Field.ofKey? member.1 with
  | none => .ok draft
  | some field =>
      if draft.has field then .error (.duplicateField field.key)
      else draft.read field member.2

def Draft.readItems (draft : Draft) (items : List (Field × Value)) : Except Mismatch Draft :=
  items.foldlM (fun draft item => draft.read item.1 item.2) draft

def ofJson : Value → Except Mismatch Property
  | .object members => do
      let draft ← members.foldlM Draft.readMember {}
      draft.finish
  | .array items => do
      let draft ← Draft.readItems {} (Field.all.zip items)
      if items.length < 2 then
        .error (.wrongLength items.length .propertyItems)
      else if Field.all.length < items.length then
        .error (.wrongLength items.length .fewerItems)
      else draft.finish
  | value => value.mismatch .property

end Property

namespace Descriptor

def Draft.read (draft : Draft) (field : Field) (value : Value) : Except Mismatch Draft :=
  match field with
  | .name => do
      let name ← value.text
      pure { draft with name := some name }
  | .qualifiedName => do
      let qualifiedName ← value.text
      pure { draft with qualifiedName := some qualifiedName }
  | .capabilities => do
      let capabilities ← value.list Value.text
      pure { draft with capabilities := some capabilities }
  | .kind => do
      let kind ← Kind.ofJson value
      pure { draft with kind := some kind }
  | .properties => do
      let properties ← value.list Property.ofJson
      pure { draft with properties := some properties }
  | .description => do
      let description ← value.optionalText
      pure { draft with description := some description }

def Draft.readMember (draft : Draft) (member : String × Value) : Except Mismatch Draft :=
  match Field.ofKey? member.1 with
  | none => .ok draft
  | some field =>
      if draft.has field then .error (.duplicateField field.key)
      else draft.read field member.2

def Draft.readItems (draft : Draft) (items : List (Field × Value)) : Except Mismatch Draft :=
  items.foldlM (fun draft item => draft.read item.1 item.2) draft

def ofJson : Value → Except Mismatch Descriptor
  | .object members => do
      let draft ← members.foldlM Draft.readMember {}
      draft.finish
  | .array items => do
      let draft ← Draft.readItems {} (Field.all.zip items)
      if items.length < 2 then
        .error (.wrongLength items.length .descriptorItems)
      else if Field.all.length < items.length then
        .error (.wrongLength items.length .fewerItems)
      else draft.finish
  | value => value.mismatch .descriptor

end Descriptor

end Companion
