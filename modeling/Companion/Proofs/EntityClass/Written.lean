import Companion.EntityClass.Source

/-!
# The written text

A source is spelled out character by character: the header, the package, one line for each import,
the comment of the class, and the class with its fields and their accessors. Every line ends with
its line feed, and the lines inside the class begin with their spaces.
-/

namespace Companion.EntityClass

/-- A line as it is written, from its spaces to its line feed. -/
def line (spaces : Nat) (text : String) : List Char :=
  List.replicate spaces ' ' ++ text.toList ++ ['\n']

def headerText : Option String → List Char
  | some text => line 0 ("// " ++ text) ++ ['\n']
  | none => []

def packageText (package : String) : List Char :=
  if package = "" then [] else line 0 ("package " ++ package ++ ";") ++ ['\n']

def commentText (settings : Settings) (spaces : Nat) : Option String → List Char
  | some description =>
      if settings.includeDocs then
        line spaces "/**" ++
          (Text.lines description.toList).flatMap (fun spoken =>
            line spaces (if spoken = [] then " *"
              else " * " ++ String.ofList (escapeEndMarks spoken))) ++
          line spaces " */"
      else []
  | none => []

def Field.text (settings : Settings) (field : Field) : List Char :=
  line settings.indentSize ("private " ++ field.typeName ++ " " ++ field.name ++ ";")

def Field.accessorText (settings : Settings) (field : Field) : List Char :=
  ['\n'] ++ commentText settings settings.indentSize field.description ++
    line settings.indentSize ("public " ++ field.typeName ++ " get" ++ field.accessor ++ "() \x7b") ++
    line (2 * settings.indentSize) ("return " ++ field.name ++ ";") ++
    line settings.indentSize "\x7d" ++ ['\n'] ++
    line settings.indentSize ("public void set" ++ field.accessor ++ "(" ++ field.typeName ++ " " ++
      field.name ++ ") \x7b") ++
    line (2 * settings.indentSize) ("this." ++ field.name ++ " = " ++ field.name ++ ";") ++
    line settings.indentSize "\x7d"

/-- What follows the imports and the line after them. -/
def classText (settings : Settings) (c : EntityClass) : List Char :=
  commentText settings 0 c.description ++ line 0 ("public class " ++ c.name ++ " \x7b") ++
    (if c.fields = [] then [] else ['\n']) ++ c.fields.flatMap (Field.text settings) ++
    (if settings.generateAccessors then c.fields.flatMap (Field.accessorText settings) else []) ++
    line 0 "\x7d"

def text (settings : Settings) (c : EntityClass) : List Char :=
  headerText settings.header ++ packageText c.package ++
    c.imports.flatMap (fun name => ("import " ++ name ++ ";\n").toList) ++
    (if c.imports = [] then [] else ['\n']) ++ c.classText settings

section Layout

variable (settings : Settings)

theorem layout_eq_line (indentSize level : Nat) (text : String) :
    Row.layout indentSize ⟨level, text.toList⟩ = line (level * indentSize) text :=
  rfl

theorem layout_blank (indentSize : Nat) : Row.blank.layout indentSize = ['\n'] := by
  rw [Row.layout, Row.blank, Nat.zero_mul]
  rfl

theorem layout_closing (indentSize level : Nat) :
    Row.layout indentSize ⟨level, ['\x7d']⟩ = line (level * indentSize) "\x7d" :=
  layout_eq_line indentSize level "\x7d"

theorem layout_headerRows (indentSize : Nat) (header : Option String) :
    (headerRows header).flatMap (Row.layout indentSize) = headerText header := by
  cases header with
  | none => rfl
  | some text =>
      simp only [headerRows, headerText, List.flatMap_cons, List.flatMap_nil, layout_eq_line,
        layout_blank, Nat.zero_mul, List.append_nil]

theorem layout_packageRows (indentSize : Nat) (package : String) :
    (packageRows package).flatMap (Row.layout indentSize) = packageText package := by
  unfold packageRows packageText
  split
  · rfl
  · simp only [List.flatMap_cons, List.flatMap_nil, layout_eq_line, layout_blank, Nat.zero_mul,
      List.append_nil]

theorem layout_importRows (indentSize : Nat) (imports : List String) :
    (importRows imports).flatMap (Row.layout indentSize) =
      imports.flatMap (fun name => ("import " ++ name ++ ";\n").toList) ++
        if imports = [] then [] else ['\n'] := by
  unfold importRows
  split
  · next none =>
      rw [none]
      rfl
  · have written (name : String) : line 0 ("import " ++ name ++ ";") =
        ("import " ++ name ++ ";\n").toList := by simp [line]
    simp only [List.flatMap_append, List.flatMap_map, List.flatMap_cons, List.flatMap_nil,
      layout_eq_line, layout_blank, Nat.zero_mul, List.append_nil, written]

theorem layout_documentationRow_eq_line (indentSize level : Nat) (spoken : List Char) :
    (documentationRow level spoken).layout indentSize =
      line (level * indentSize)
        (if spoken = [] then " *" else " * " ++ String.ofList (escapeEndMarks spoken)) := by
  unfold documentationRow
  split
  · exact layout_eq_line indentSize level " *"
  · simp only [Row.layout, line, String.toList_append, String.toList_ofList]

theorem layout_descriptionRows (level : Nat) (description : Option String) :
    (descriptionRows settings level description).flatMap (Row.layout settings.indentSize) =
      commentText settings (level * settings.indentSize) description := by
  unfold descriptionRows
  cases description with
  | none => split <;> rfl
  | some text =>
      rw [commentText]
      split
      · simp only [documentation, List.cons_append, List.flatMap_append, List.flatMap_cons,
          List.flatMap_nil, List.flatMap_map, List.append_nil, List.append_assoc, layout_eq_line,
          layout_documentationRow_eq_line]
      · rfl

theorem layout_accessors (field : Field) :
    (field.accessors settings).flatMap (Row.layout settings.indentSize) =
      field.accessorText settings := by
  unfold Field.accessors Field.accessorText Field.getterHead Field.setterHead
  rw [List.flatMap_append, List.flatMap_cons, layout_descriptionRows]
  simp only [List.flatMap_cons, List.flatMap_nil, layout_eq_line, layout_closing, layout_blank,
    Nat.one_mul, List.append_assoc, List.append_nil]

theorem layout_accessorRows (c : EntityClass) :
    (c.accessorRows settings).flatMap (Row.layout settings.indentSize) =
      if settings.generateAccessors then c.fields.flatMap (Field.accessorText settings) else [] := by
  unfold accessorRows
  split
  · rw [List.flatMap_assoc]
    exact congrArg c.fields.flatMap (funext (layout_accessors settings))
  · rfl

theorem layout_declarations (c : EntityClass) :
    (c.fields.map Field.declaration).flatMap (Row.layout settings.indentSize) =
      c.fields.flatMap (Field.text settings) := by
  rw [List.flatMap_map]
  refine congrArg c.fields.flatMap (funext fun field => ?_)
  rw [Field.declaration, layout_eq_line, Nat.one_mul, Field.text]

/-- The rows of a source, laid out, are its text. -/
theorem source_eq_text (c : EntityClass) :
    c.source settings = String.ofList (c.text settings) := by
  have gap : (if c.fields = [] then [] else [Row.blank]).flatMap (Row.layout settings.indentSize) =
      if c.fields = [] then [] else ['\n'] := by
    split
    · rfl
    · rw [List.flatMap_singleton, layout_blank]
  rw [source, rows, opening, text, classText]
  congr 1
  simp only [List.flatMap_append, List.flatMap_cons, List.flatMap_nil, layout_headerRows,
    layout_packageRows, layout_importRows, layout_descriptionRows, layout_eq_line, layout_closing,
    layout_accessorRows, layout_declarations, gap, Nat.zero_mul, List.append_assoc, List.append_nil]

end Layout

end Companion.EntityClass
