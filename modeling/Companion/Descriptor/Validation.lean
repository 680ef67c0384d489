import Companion.Descriptor.Basic
import Companion.Identifier

/-!
# Validation

A descriptor is refused for the first of four defects: an empty qualified name, a name that is no
identifier, a capability without a name, a property without a name. Positions count from zero.
-/

namespace Companion.Descriptor

inductive Defect where
  | emptyQualifiedName (name : String)
  | notIdentifier (qualifiedName name : String)
  | unnamedCapability (qualifiedName : String) (position : Nat)
  | unnamedProperty (qualifiedName : String) (position : Nat)
deriving DecidableEq, Repr

def Defect.message : Defect → String
  | .emptyQualifiedName name => s!"type '{name}' has an empty fully-qualified name"
  | .notIdentifier qualifiedName name =>
      s!"type '{qualifiedName}' has a name that is not an identifier: '{name}'"
  | .unnamedCapability qualifiedName position =>
      s!"type '{qualifiedName}' declares an unnamed capability at position {position}"
  | .unnamedProperty qualifiedName position =>
      s!"type '{qualifiedName}' declares an unnamed property at position {position}"

def validate (d : Descriptor) : Except Defect Unit :=
  if d.qualifiedName = "" then
    .error (.emptyQualifiedName d.name)
  else if !isIdentifierOrEmpty d.name then
    .error (.notIdentifier d.qualifiedName d.name)
  else
    match d.capabilities.findIdx? (· = "") with
    | some position => .error (.unnamedCapability d.qualifiedName position)
    | none =>
        match d.properties.findIdx? (·.name = "") with
        | some position => .error (.unnamedProperty d.qualifiedName position)
        | none => .ok ()

end Companion.Descriptor
