import Companion.EntityClass.Basic
import Companion.EntityClass.Documentation
import Companion.Settings.Basic

/-!
# The source text of an entity class

The text is a list of rows. The settings decide which rows there are, except for the indentation,
which only takes part when the rows are laid out.
-/

namespace Companion.EntityClass

def descriptionRows (settings : Settings) (level : Nat) (description : Option String) : List Row :=
  if settings.includeDocs then
    match description with
    | some text => documentation level text
    | none => []
  else []

def headerRows (header : Option String) : List Row :=
  match header with
  | some text => [⟨0, ("// " ++ text).toList⟩, Row.blank]
  | none => []

def packageRows (package : String) : List Row :=
  if package = "" then []
  else [⟨0, ("package " ++ package ++ ";").toList⟩, Row.blank]

def importRows (imports : List String) : List Row :=
  if imports = [] then []
  else imports.map (fun name => ⟨0, ("import " ++ name ++ ";").toList⟩) ++ [Row.blank]

def Field.declaration (field : Field) : Row :=
  ⟨1, ("private " ++ field.typeName ++ " " ++ field.name ++ ";").toList⟩

def Field.getterHead (field : Field) : String :=
  "public " ++ field.typeName ++ " get" ++ field.accessor ++ "() \x7b"

def Field.setterHead (field : Field) : String :=
  "public void set" ++ field.accessor ++ "(" ++ field.typeName ++ " " ++ field.name ++ ") \x7b"

def Field.accessors (settings : Settings) (field : Field) : List Row :=
  Row.blank :: descriptionRows settings 1 field.description ++
    [⟨1, field.getterHead.toList⟩,
      ⟨2, ("return " ++ field.name ++ ";").toList⟩,
      ⟨1, ['\x7d']⟩,
      Row.blank,
      ⟨1, field.setterHead.toList⟩,
      ⟨2, ("this." ++ field.name ++ " = " ++ field.name ++ ";").toList⟩,
      ⟨1, ['\x7d']⟩]

/-- The rows before the accessors. -/
def opening (settings : Settings) (c : EntityClass) : List Row :=
  headerRows settings.header ++ packageRows c.package ++ importRows c.imports ++
    descriptionRows settings 0 c.description ++
    [⟨0, ("public class " ++ c.name ++ " \x7b").toList⟩] ++
    (if c.fields = [] then [] else [Row.blank]) ++
    c.fields.map Field.declaration

def accessorRows (settings : Settings) (c : EntityClass) : List Row :=
  if settings.generateAccessors then c.fields.flatMap (Field.accessors settings) else []

def rows (settings : Settings) (c : EntityClass) : List Row :=
  c.opening settings ++ c.accessorRows settings ++ [⟨0, ['\x7d']⟩]

def source (settings : Settings) (c : EntityClass) : String :=
  String.ofList ((c.rows settings).flatMap (Row.layout settings.indentSize))

end Companion.EntityClass
