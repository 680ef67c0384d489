import Companion.Proofs.EntityClass.Resolution
import Companion.Proofs.Generation.Rendered

/-!
# What the settings decide

A class is resolved before any setting is read, so the settings have no say in whether there is a
text and none in the names within it. Each of them has a part of the text for itself: the header the
first two rows, the documentation the comment blocks, the accessors the rows between the last field
and the end of the class. The rows of all other parts are the same under all settings.
-/

namespace Companion

def Property.undocumented (property : Property) : Property :=
  { property with description := none }

def Descriptor.undocumented (d : Descriptor) : Descriptor :=
  { d with description := none, properties := d.properties.map Property.undocumented }

namespace EntityClass

def Field.undocumented (field : Field) : Field :=
  { field with description := none }

def undocumented (c : EntityClass) : EntityClass :=
  { c with description := none, fields := c.fields.map Field.undocumented }

section Resolution

end Resolution

section Text

def laidOut (indentSize : Nat) (rows : List Row) : String :=
  String.ofList (rows.flatMap (Row.layout indentSize))

theorem laidOut_append (indentSize : Nat) (above below : List Row) :
    laidOut indentSize (above ++ below) = laidOut indentSize above ++ laidOut indentSize below := by
  rw [laidOut, List.flatMap_append, String.ofList_append]
  rfl

variable (settings : Settings) (c : EntityClass)

theorem source_eq_laidOut : c.source settings = laidOut settings.indentSize (c.rows settings) :=
  rfl

/-- The rows between the header and the description of the class. -/
def namingRows : List Row :=
  packageRows c.package ++ importRows c.imports

/-- The rows from the head of the class to its last field. -/
def fieldRows : List Row :=
  ⟨0, ("public class " ++ c.name ++ " \x7b").toList⟩ ::
    (if c.fields = [] then [] else [Row.blank]) ++ c.fields.map Field.declaration

/-- The rows of a class, cut where the settings begin and end to take part. -/
theorem rows_eq :
    c.rows settings =
      headerRows settings.header ++ c.namingRows ++ descriptionRows settings 0 c.description ++
        c.fieldRows ++ c.accessorRows settings ++ [⟨0, ['\x7d']⟩] := by
  rw [rows, opening, namingRows, fieldRows]
  simp only [List.append_assoc, List.cons_append, List.nil_append]

end Text

end EntityClass

namespace Template

variable {d : Descriptor}

/-- A text is rendered under all settings or under none. -/
theorem render_of_ofDescriptor {c : EntityClass}
    (resolved : (EntityClass.ofDescriptor d).run.value = .ok c) (settings : Settings) :
    ((entity settings).render d).run.value = .ok (c.source settings) := by
  rw [value_render_entity, resolved]

theorem render_eq_error_iff {settings : Settings} {error : GenerateError} :
    ((entity settings).render d).run.value = .error error ↔
      (EntityClass.ofDescriptor d).run.value = .error error := by
  rw [value_render_entity]
  cases (EntityClass.ofDescriptor d).run.value with
  | ok c =>
      constructor
      · intro impossible
        cases impossible
      · intro impossible
        cases impossible
  | error other => simp only [Except.error.injEq]

end Template

end Companion
