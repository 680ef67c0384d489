import Companion.Descriptor.Basic
import Companion.Mismatch

/-!
# Drafts

Descriptors are read field by field. A draft holds the fields read so far; it can be finished once
the fields that have no default are there.
-/

namespace Companion

namespace Property

inductive Field where
  | name
  | type
  | description
deriving DecidableEq, Repr

namespace Field

def all : List Field :=
  [.name, .type, .description]

def key : Field → String
  | .name => "name"
  | .type => "type"
  | .description => "description"

def ofKey? (key : String) : Option Field :=
  all.find? fun field => field.key = key

theorem ofKey?_key (field : Field) : ofKey? field.key = some field := by
  cases field <;> decide

end Field

structure Draft where
  name : Option String := none
  type : Option TypeRef := none
  description : Option (Option String) := none
deriving DecidableEq

namespace Draft

def has (draft : Draft) : Field → Bool
  | .name => draft.name.isSome
  | .type => draft.type.isSome
  | .description => draft.description.isSome

/-- The property, or the first field that it lacks. -/
def finish (draft : Draft) : Except Mismatch Property :=
  match draft.name, draft.type with
  | none, _ => .error (.missingField Field.name.key)
  | some _, none => .error (.missingField Field.type.key)
  | some name, some type =>
      .ok { name, type, description := draft.description.getD none }

end Draft

end Property

namespace Descriptor

inductive Field where
  | name
  | qualifiedName
  | capabilities
  | kind
  | properties
  | description
deriving DecidableEq, Repr

namespace Field

def all : List Field :=
  [.name, .qualifiedName, .capabilities, .kind, .properties, .description]

def key : Field → String
  | .name => "name"
  | .qualifiedName => "fully_qualified_name"
  | .capabilities => "implemented_capabilities"
  | .kind => "kind"
  | .properties => "properties"
  | .description => "description"

def ofKey? (key : String) : Option Field :=
  all.find? fun field => field.key = key

theorem ofKey?_key (field : Field) : ofKey? field.key = some field := by
  cases field <;> decide

end Field

structure Draft where
  name : Option String := none
  qualifiedName : Option String := none
  capabilities : Option (List String) := none
  kind : Option Kind := none
  properties : Option (List Property) := none
  description : Option (Option String) := none
deriving DecidableEq

namespace Draft

def has (draft : Draft) : Field → Bool
  | .name => draft.name.isSome
  | .qualifiedName => draft.qualifiedName.isSome
  | .capabilities => draft.capabilities.isSome
  | .kind => draft.kind.isSome
  | .properties => draft.properties.isSome
  | .description => draft.description.isSome

/-- The descriptor, or the first field that it lacks. -/
def finish (draft : Draft) : Except Mismatch Descriptor :=
  match draft.name, draft.qualifiedName with
  | none, _ => .error (.missingField Field.name.key)
  | some _, none => .error (.missingField Field.qualifiedName.key)
  | some name, some qualifiedName =>
      .ok {
        name, qualifiedName
        capabilities := draft.capabilities.getD []
        kind := draft.kind.getD .structuralType
        properties := draft.properties.getD []
        description := draft.description.getD none }

end Draft

end Descriptor

end Companion
