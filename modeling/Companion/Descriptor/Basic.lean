import Companion.TypeRef
import Companion.Capability
import Companion.Text.Capital

/-!
# Type descriptors

A descriptor is what a schema compiler says about one generated type: its names, the capabilities
that it implements, and its properties. Descriptors are built up step by step and are then only
read.
-/

namespace Companion

inductive Kind where
  /-- An interface-like type for containers, lists and the like. -/
  | structuralType
  /-- A value class for typedefs, unions and keys. -/
  | transferObject
  | other
deriving DecidableEq, Repr, Inhabited

namespace Kind

/-- All variants, in the order in which they are listed to the user. -/
def all : List Kind :=
  [.structuralType, .transferObject, .other]

/-- The name of a variant in descriptor files. -/
def tag : Kind → String
  | .structuralType => "structural_type"
  | .transferObject => "transfer_object"
  | .other => "other"

/-- The name of a variant in log lines. -/
def label : Kind → String
  | .structuralType => "StructuralType"
  | .transferObject => "TransferObject"
  | .other => "Other"

def ofTag? (tag : String) : Option Kind :=
  all.find? fun kind => kind.tag = tag

theorem ofTag?_tag (kind : Kind) : ofTag? kind.tag = some kind := by
  cases kind <;> decide

end Kind

structure Property where
  name : String
  type : TypeRef
  description : Option String := none
deriving DecidableEq

/-- What is appended to the name of a type to name its companion. -/
def companionSuffix : String :=
  "Entity"

def companionNameOf (typeName : String) : String :=
  typeName ++ companionSuffix

structure Descriptor where
  name : String
  qualifiedName : String
  capabilities : List String := []
  kind : Kind := .structuralType
  properties : List Property := []
  description : Option String := none
deriving DecidableEq

namespace Descriptor

def package (d : Descriptor) : String :=
  packagePart d.qualifiedName

def companionName (d : Descriptor) : String :=
  companionNameOf d.name

/-- Whether the type gets a companion: it is no transfer object and implements a marker. -/
def hasCompanion (d : Descriptor) : Bool :=
  d.kind ≠ .transferObject && d.capabilities.any Capability.isMarker

inductive Step where
  | kind (kind : Kind)
  | capability (name : String)
  | property (property : Property)
  | description (text : String)
deriving DecidableEq

def apply (d : Descriptor) : Step → Descriptor
  | .kind kind => { d with kind }
  | .capability name => { d with capabilities := d.capabilities ++ [name] }
  | .property property => { d with properties := d.properties ++ [property] }
  | .description text => { d with description := some text }

def build (name qualifiedName : String) (steps : List Step) : Descriptor :=
  steps.foldl apply { name, qualifiedName }

end Descriptor

end Companion
