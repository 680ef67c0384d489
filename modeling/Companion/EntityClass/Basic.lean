import Companion.Scope
import Companion.Rendering

/-!
# Entity classes

The companion of a type as a class: its package, its imports, and one field for each property with
the type text by which the field is declared. `ofDescriptor` decides all names; no setting takes
part.
-/

namespace Companion

namespace EntityClass

structure Field where
  name : String
  accessor : String
  typeName : String
  description : Option String
deriving DecidableEq, Repr

/-- The field of a property whose type is mentioned by the given text. -/
def Field.ofProperty (property : Property) (typeName : String) : Field where
  name := Text.uncapitalized property.name
  accessor := Text.capitalized property.name
  typeName := typeName
  description := property.description

end EntityClass

structure EntityClass where
  package : String
  name : String
  imports : List String
  description : Option String
  fields : List EntityClass.Field
deriving DecidableEq, Repr

namespace EntityClass

def templateName : String :=
  "entity"

/-- Mentions the implicit types of some properties, so that they hold their names from then on. -/
def claimImplicit (scope : Scope) : List Property → Traced Scope
  | [] => pure scope
  | property :: rest =>
      if property.type.isImplicit then do
        let (_, scope) ← scope.mention property.type
        claimImplicit scope rest
      else
        claimImplicit scope rest

/-- The fields of some properties, given the names of the fields before them. -/
def declareFields (owner : String) (earlier : List String) (scope : Scope) :
    List Property → Rendering (List Field × Scope)
  | [] => pure ([], scope)
  | property :: rest => do
      let name := Text.uncapitalized property.name
      if name ∈ earlier then
        throw (.duplicateField templateName property.name owner name)
      let (typeName, scope) ← scope.mention property.type
      let (fields, scope) ← declareFields owner (name :: earlier) scope rest
      pure (Field.ofProperty property typeName :: fields, scope)

/-- Whether a type is written on an import line of a unit in the given package. -/
def needsImport (package canonicalName : String) : Bool :=
  let home := packagePart canonicalName
  home ≠ "" && home ≠ implicitPackage && home ≠ package

/--
The companion of a type. Its own name is taken before any property is looked at, and the implicit
types of all properties come before the types of the others.
-/
def ofDescriptor (d : Descriptor) : Rendering EntityClass := do
  match TypeRef.parse (qualify d.package d.companionName) with
  | .error refusal => throw (.invalidTypeRef refusal)
  | .ok own =>
      let (_, scope) ← (∅ : Scope).mention own
      let scope ← claimImplicit scope d.properties
      let (fields, scope) ← declareFields d.qualifiedName [] scope d.properties
      pure {
        package := d.package
        name := d.companionName
        imports := scope.imports.filter (needsImport d.package)
        description := d.description
        fields := fields }

end EntityClass

end Companion
