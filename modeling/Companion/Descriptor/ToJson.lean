import Companion.Descriptor.Draft

/-!
# Descriptors as JSON values

Every field is a member under its name; a description that is absent is left out.
-/

namespace Companion

open Json (Value)

def descriptionMembers (key : String) (description : Option String) : List (String × Value) :=
  match description with
  | some text => [(key, .string text)]
  | none => []

def Property.toJson (property : Property) : Value :=
  .object ([
    (Property.Field.name.key, .string property.name),
    (Property.Field.type.key, .string property.type.canonicalName)] ++
    descriptionMembers Property.Field.description.key property.description)

def Descriptor.toJson (d : Descriptor) : Value :=
  .object ([
    (Descriptor.Field.name.key, .string d.name),
    (Descriptor.Field.qualifiedName.key, .string d.qualifiedName),
    (Descriptor.Field.capabilities.key, .array (d.capabilities.map .string)),
    (Descriptor.Field.kind.key, .string d.kind.tag),
    (Descriptor.Field.properties.key, .array (d.properties.map Property.toJson))] ++
    descriptionMembers Descriptor.Field.description.key d.description)

end Companion
