import Companion.EntityClass.Source

/-!
# Templates and generation

A template renders the companion of a type. `Template.generate` puts the tests before it that every
template relies on: types that get no companion yield the empty text, and descriptors with a defect
are refused.
-/

namespace Companion

/-- Refuses a descriptor with a defect, and logs that it found none. -/
def Descriptor.requireValid (d : Descriptor) : Rendering Unit :=
  match d.validate with
  | .error defect => throw (.invalidDescriptor defect)
  | .ok () => Traced.emit (.validated d.qualifiedName)

def Descriptor.decideCompanion (d : Descriptor) : Traced Bool := do
  Traced.emit (.acceptability d.qualifiedName d.kind d.hasCompanion)
  pure d.hasCompanion

structure Template where
  name : String
  render : Descriptor → Rendering String

namespace Template

def entity (settings : Settings) : Template where
  name := EntityClass.templateName
  render d := do
    let companion ← EntityClass.ofDescriptor d
    pure (companion.source settings)

/-- The companion of a type; empty if the type gets none. -/
def generate (template : Template) (d : Descriptor) : Rendering String := do
  if !d.hasCompanion then
    Traced.emit (.skipped d.qualifiedName)
    pure ""
  else
    d.requireValid
    Traced.emit (.rendering d.qualifiedName template.name)
    template.render d

end Template

end Companion
