import Companion.Proofs.EntityClass.TypeText
import Companion.Proofs.Text.Capital
import Mathlib.Algebra.BigOperators.Group.List.Basic
import Mathlib.Algebra.GroupWithZero.Nat

/-!
# The number of lines of a source

Every row ends in one line feed, and a row holds further ones only if a text in it does. A
description is cut into rows and adds no line feed of its own, and neither does the name of the
class. A package, a type text and the name of a property are written as they are, so each line feed
in them adds a line wherever they are written.
-/

namespace Companion

namespace Text

@[irreducible]
def lineFeeds (text : String) : Nat :=
  text.toList.count '\n'

@[simp] theorem lineFeeds_append (a b : String) :
    lineFeeds (a ++ b) = lineFeeds a + lineFeeds b := by
  simp only [lineFeeds, String.toList_append, List.count_append]

theorem lineFeeds_eq_zero_iff {text : String} : lineFeeds text = 0 ↔ '\n' ∉ text.toList := by
  rw [lineFeeds, List.count_eq_zero]

theorem lineFeeds_capitalized (name : String) : lineFeeds (capitalized name) = lineFeeds name := by
  rw [lineFeeds, lineFeeds, count_newline_capitalized]

theorem lineFeeds_uncapitalized (name : String) :
    lineFeeds (uncapitalized name) = lineFeeds name := by
  rw [lineFeeds, lineFeeds, count_newline_uncapitalized]

end Text

namespace EntityClass

open Text (lineFeeds)

def height (rows : List Row) : Nat :=
  (rows.map fun row => row.text.count '\n' + 1).sum

@[simp] theorem height_nil : height [] = 0 :=
  rfl

@[simp] theorem height_cons (row : Row) (rest : List Row) :
    height (row :: rest) = row.text.count '\n' + 1 + height rest := by
  rw [height, List.map_cons, List.sum_cons]
  rfl

@[simp] theorem height_append (above below : List Row) :
    height (above ++ below) = height above + height below := by
  rw [height, List.map_append, List.sum_append]
  rfl

theorem height_of_clean {rows : List Row} (clean : ∀ row ∈ rows, '\n' ∉ row.text) :
    height rows = rows.length := by
  induction rows with
  | nil => rfl
  | cons row rest ih =>
      rw [height_cons, List.count_eq_zero_of_not_mem (clean row List.mem_cons_self),
        ih fun other inside => clean other (List.mem_cons_of_mem _ inside), List.length_cons]
      omega

/-- Indentation holds no line feed. -/
theorem count_newline_layout (indentSize : Nat) (row : Row) :
    (row.layout indentSize).count '\n' = row.text.count '\n' + 1 := by
  simp [Row.layout, List.count_replicate]

/-- Rows that are laid out hold as many line feeds as they take up lines. -/
theorem count_newline_flatMap_layout (indentSize : Nat) (rows : List Row) :
    (rows.flatMap (Row.layout indentSize)).count '\n' = height rows := by
  induction rows with
  | nil => rfl
  | cons row rest ih =>
      rw [List.flatMap_cons, List.count_append, count_newline_layout, ih, height_cons]

theorem lineFeeds_source (settings : Settings) (c : EntityClass) :
    lineFeeds (c.source settings) = height (c.rows settings) := by
  rw [lineFeeds, source, String.toList_ofList, count_newline_flatMap_layout]

section Documentation

theorem mem_of_mem_escapeEndMarks {line : List Char} {c : Char}
    (found : c ∈ escapeEndMarks line) : c ∈ line ∨ c ∈ "*&#47;".toList := by
  fun_induction escapeEndMarks line with
  | case1 rest ih =>
      rcases List.mem_append.mp found with mark | later
      · exact Or.inr mark
      · rcases ih later with inside | mark
        · exact Or.inl (List.mem_cons_of_mem _ (List.mem_cons_of_mem _ inside))
        · exact Or.inr mark
  | case2 first rest other ih =>
      rcases List.mem_cons.mp found with same | later
      · exact Or.inl (List.mem_cons.mpr (Or.inl same))
      · rcases ih later with inside | mark
        · exact Or.inl (List.mem_cons_of_mem _ inside)
        · exact Or.inr mark
  | case3 => cases found

theorem newline_not_mem_documentationRow (level : Nat) {line : List Char} (clean : '\n' ∉ line) :
    '\n' ∉ (documentationRow level line).text := by
  unfold documentationRow
  split
  · exact (by decide : '\n' ∉ " *".toList)
  · intro newline
    rcases List.mem_append.mp newline with lead | text
    · exact absurd lead (by decide)
    · rcases mem_of_mem_escapeEndMarks text with inside | mark
      · exact clean inside
      · exact absurd mark (by decide)

/-- A description takes up its own lines and the two that open and close the comment. -/
theorem height_documentation (level : Nat) (description : String) :
    height (documentation level description) = (Text.lines description.toList).length + 2 := by
  rw [height_of_clean]
  · simp [documentation]
  · intro row inside
    rw [documentation, List.cons_append, List.mem_cons, List.mem_append, List.mem_map,
      List.mem_singleton] at inside
    rcases inside with rfl | ⟨line, found, rfl⟩ | rfl
    · exact (by decide : '\n' ∉ "/**".toList)
    · exact newline_not_mem_documentationRow level (Text.newline_not_mem_of_mem_lines found)
    · exact (by decide : '\n' ∉ " */".toList)

def documentedLines (settings : Settings) (description : Option String) : Nat :=
  match description with
  | some text => if settings.includeDocs then (Text.lines text.toList).length + 2 else 0
  | none => 0

theorem height_descriptionRows (settings : Settings) (level : Nat) (description : Option String) :
    height (descriptionRows settings level description) = documentedLines settings description := by
  unfold descriptionRows documentedLines
  cases description with
  | none => cases settings.includeDocs <;> rfl
  | some text =>
      cases settings.includeDocs with
      | false => rfl
      | true => exact height_documentation level text

end Documentation

section Parts

/-- The words that a source is built from hold no line feed. -/
theorem lineFeeds_words :
    (lineFeeds "" = 0 ∧ lineFeeds " " = 0 ∧ lineFeeds ";" = 0 ∧ lineFeeds " = " = 0) ∧
    (lineFeeds "// " = 0 ∧ lineFeeds "package " = 0 ∧ lineFeeds "import " = 0) ∧
    (lineFeeds "public class " = 0 ∧ lineFeeds " \x7b" = 0 ∧ lineFeeds "private " = 0) ∧
    (lineFeeds "public " = 0 ∧ lineFeeds " get" = 0 ∧ lineFeeds "() \x7b" = 0) ∧
    (lineFeeds "public void set" = 0 ∧ lineFeeds "(" = 0 ∧ lineFeeds ") \x7b" = 0) ∧
    (lineFeeds "return " = 0 ∧ lineFeeds "this." = 0) := by
  simp only [Text.lineFeeds_eq_zero_iff]
  decide

theorem height_cons_toList (level : Nat) (text : String) (rest : List Row) :
    height (⟨level, text.toList⟩ :: rest) = lineFeeds text + 1 + height rest := by
  rw [height_cons, lineFeeds]

theorem height_cons_blank (rest : List Row) : height (Row.blank :: rest) = 1 + height rest :=
  height_cons _ _

theorem height_headerRows {header : Option String}
    (oneLine : ∀ text, header = some text → '\n' ∉ text.toList) :
    height (headerRows header) = if header.isSome then 2 else 0 := by
  cases header with
  | none => rfl
  | some text =>
      have clean : lineFeeds text = 0 := Text.lineFeeds_eq_zero_iff.mpr (oneLine text rfl)
      rw [headerRows, height_cons_toList]
      simp only [Text.lineFeeds_append, lineFeeds_words, clean]
      rfl

theorem height_packageRows (package : String) :
    height (packageRows package) = (if package = "" then 0 else 2) + lineFeeds package := by
  by_cases home : package = ""
  · rw [home, lineFeeds_words.1.1]
    rfl
  · rw [packageRows, if_neg home, if_neg home, height_cons_toList, height_cons_blank, height_nil]
    simp only [Text.lineFeeds_append, lineFeeds_words]
    omega

theorem height_importRows (imports : List String) :
    height (importRows imports) =
      (if imports = [] then 0 else imports.length + 1) + (imports.map lineFeeds).sum := by
  have rows : height (imports.map fun name => ⟨0, ("import " ++ name ++ ";").toList⟩) =
      imports.length + (imports.map lineFeeds).sum := by
    induction imports with
    | nil => rfl
    | cons name rest ih =>
        rw [List.map_cons, height_cons_toList, ih, List.length_cons, List.map_cons, List.sum_cons]
        simp only [Text.lineFeeds_append, lineFeeds_words]
        omega
  by_cases empty : imports = []
  · subst empty
    rfl
  · rw [importRows, if_neg empty, if_neg empty, height_append, rows, height_cons_blank, height_nil]
    omega

theorem height_cons_declaration (field : Field) (rest : List Row) :
    height (field.declaration :: rest) =
      1 + (lineFeeds field.typeName + lineFeeds field.name) + height rest := by
  unfold Field.declaration
  rw [height_cons_toList]
  simp only [Text.lineFeeds_append, lineFeeds_words]
  omega

theorem height_declarations (fields : List Field) :
    height (fields.map Field.declaration) =
      fields.length +
        (fields.map fun field => lineFeeds field.typeName + lineFeeds field.name).sum := by
  induction fields with
  | nil => rfl
  | cons field rest ih =>
      rw [List.map_cons, height_cons_declaration, ih, List.length_cons, List.map_cons, List.sum_cons]
      omega

theorem lineFeeds_getterHead (field : Field) :
    lineFeeds field.getterHead = lineFeeds field.typeName + lineFeeds field.accessor := by
  simp only [Field.getterHead, Text.lineFeeds_append, lineFeeds_words]
  omega

theorem lineFeeds_setterHead (field : Field) :
    lineFeeds field.setterHead =
      lineFeeds field.accessor + lineFeeds field.typeName + lineFeeds field.name := by
  change lineFeeds ("public void set" ++ field.accessor ++ "(" ++ field.typeName ++ " " ++
    field.name ++ ") \x7b") = _
  simp only [Text.lineFeeds_append, lineFeeds_words]
  omega

/-- The accessors of a field take up eight lines besides the description, and what its texts add. -/
theorem height_accessors (settings : Settings) (field : Field) :
    height (field.accessors settings) =
      8 + documentedLines settings field.description +
        (2 * lineFeeds field.typeName + 2 * lineFeeds field.accessor + 4 * lineFeeds field.name) := by
  have brace (rest : List Row) : height (⟨1, ['\x7d']⟩ :: rest) = 1 + height rest :=
    height_cons _ _
  unfold Field.accessors
  rw [List.cons_append, height_cons_blank, height_append, height_descriptionRows]
  simp only [height_cons_toList, height_cons_blank, brace, height_nil, lineFeeds_getterHead,
    lineFeeds_setterHead, Text.lineFeeds_append, lineFeeds_words]
  omega

theorem height_accessorRows (settings : Settings) (c : EntityClass) :
    height (c.accessorRows settings) =
      if settings.generateAccessors then
        (c.fields.map fun field => 8 + documentedLines settings field.description).sum +
          (c.fields.map fun field =>
            2 * lineFeeds field.typeName + 2 * lineFeeds field.accessor +
              4 * lineFeeds field.name).sum
      else 0 := by
  unfold accessorRows
  cases settings.generateAccessors with
  | false => rfl
  | true =>
      rw [if_pos rfl, if_pos rfl, ← List.sum_map_add]
      induction c.fields with
      | nil => rfl
      | cons field rest ih =>
          rw [List.flatMap_cons, height_append, height_accessors, ih, List.map_cons, List.sum_cons]

theorem height_opening (settings : Settings) (c : EntityClass) :
    height (c.opening settings) =
      height (headerRows settings.header) + height (packageRows c.package) +
        height (importRows c.imports) + documentedLines settings c.description +
        (1 + lineFeeds c.name) + (if c.fields = [] then 0 else 1) +
        height (c.fields.map Field.declaration) := by
  have gap : height (if c.fields = [] then [] else [Row.blank]) = if c.fields = [] then 0 else 1 := by
    split <;> rfl
  unfold opening
  simp only [height_append, height_descriptionRows, gap, height_cons_toList, height_nil,
    Text.lineFeeds_append, lineFeeds_words]
  omega

end Parts

/-- The lines that the settings and the shape of a descriptor ask for. -/
def lineCount (settings : Settings) (d : Descriptor) (imports : List String) : Nat :=
  (if settings.header.isSome then 2 else 0) +
  (if d.package = "" then 0 else 2) +
  (if imports = [] then 0 else imports.length + 1) +
  documentedLines settings d.description +
  1 +
  (if d.properties = [] then 0 else 1 + d.properties.length) +
  (if settings.generateAccessors then
    (d.properties.map fun property => 8 + documentedLines settings property.description).sum
  else 0) +
  1

/-- The line feeds in a property's texts, for each place where they are written. -/
def propertyLineFeeds (settings : Settings) (d : Descriptor) (property : Property) : Nat :=
  (lineFeeds (d.typeText property.type) + lineFeeds property.name) +
  (if settings.generateAccessors then
    2 * lineFeeds (d.typeText property.type) + 6 * lineFeeds property.name
  else 0)

/-- The line feeds in the texts that are written as they are. -/
def writtenLineFeeds (settings : Settings) (d : Descriptor) (imports : List String) : Nat :=
  lineFeeds d.package + (imports.map lineFeeds).sum +
    (d.properties.map (propertyLineFeeds settings d)).sum

theorem sum_propertyLineFeeds (settings : Settings) (d : Descriptor) (properties : List Property) :
    (properties.map (propertyLineFeeds settings d)).sum =
      (properties.map fun property =>
        lineFeeds (d.typeText property.type) + lineFeeds property.name).sum +
      if settings.generateAccessors then
        (properties.map fun property =>
          2 * lineFeeds (d.typeText property.type) + 6 * lineFeeds property.name).sum
      else 0 := by
  cases accessors : settings.generateAccessors with
  | false =>
      have each (property : Property) : propertyLineFeeds settings d property =
          lineFeeds (d.typeText property.type) + lineFeeds property.name := by
        rw [propertyLineFeeds, accessors]
        rfl
      rw [List.map_congr_left fun property _ => each property]
      rfl
  | true =>
      have each (property : Property) : propertyLineFeeds settings d property =
          lineFeeds (d.typeText property.type) + lineFeeds property.name +
            (2 * lineFeeds (d.typeText property.type) + 6 * lineFeeds property.name) := by
        rw [propertyLineFeeds, accessors]
        rfl
      rw [if_pos rfl, ← List.sum_map_add, List.map_congr_left fun property _ => each property]

section Resolved

variable {d : Descriptor} {c : EntityClass}

theorem lineFeeds_companionName (valid : d.validate = .ok ()) : lineFeeds d.companionName = 0 :=
  Text.lineFeeds_eq_zero_iff.mpr
    (Descriptor.newline_not_mem_companionName valid)

theorem height_rows_of_ofDescriptor {settings : Settings}
    (resolved : (ofDescriptor d).run.value = .ok c) (valid : d.validate = .ok ())
    (oneLine : ∀ text, settings.header = some text → '\n' ∉ text.toList) :
    height (c.rows settings) =
      lineCount settings d c.imports + writtenLineFeeds settings d c.imports := by
  have fields := fields_of_ofDescriptor resolved valid
  have brace : height [⟨0, ['\x7d']⟩] = 1 := rfl
  have collect (a b : Nat) : 2 * a + 2 * b + 4 * b = 2 * a + 6 * b := by omega
  obtain ⟨package, name, description⟩ := parts_of_ofDescriptor resolved
  rw [rows, height_append, height_append, height_opening, height_headerRows oneLine,
    height_packageRows, height_importRows, height_declarations, height_accessorRows, brace, fields,
    package, name, description, lineFeeds_companionName valid]
  simp only [List.map_map, Function.comp_def, Field.ofProperty, Text.lineFeeds_uncapitalized,
    Text.lineFeeds_capitalized, List.length_map, List.map_eq_nil_iff, collect]
  have declarations : (if d.properties = [] then 0 else 1) + d.properties.length =
      if d.properties = [] then 0 else 1 + d.properties.length := by
    split
    · next none => rw [none, List.length_nil]
    · rfl
  rw [lineCount, writtenLineFeeds, sum_propertyLineFeeds, ← declarations]
  cases settings.generateAccessors with
  | false =>
      simp only [Bool.false_eq_true, if_false]
      omega
  | true =>
      simp only [if_true]
      omega

theorem count_newline_source {settings : Settings}
    (resolved : (ofDescriptor d).run.value = .ok c) (valid : d.validate = .ok ())
    (oneLine : ∀ text, settings.header = some text → '\n' ∉ text.toList) :
    (c.source settings).toList.count '\n' =
      lineCount settings d c.imports + writtenLineFeeds settings d c.imports := by
  rw [← height_rows_of_ofDescriptor resolved valid oneLine, ← lineFeeds_source, lineFeeds]

/-- The texts that are written as they are add no line exactly if none of them holds a line feed. -/
theorem writtenLineFeeds_eq_zero_iff (settings : Settings) (d : Descriptor)
    (imports : List String) :
    writtenLineFeeds settings d imports = 0 ↔
      '\n' ∉ d.package.toList ∧ (∀ name ∈ imports, '\n' ∉ name.toList) ∧
        ∀ property ∈ d.properties,
          '\n' ∉ (d.typeText property.type).toList ∧ '\n' ∉ property.name.toList := by
  have property (p : Property) : propertyLineFeeds settings d p = 0 ↔
      lineFeeds (d.typeText p.type) = 0 ∧ lineFeeds p.name = 0 := by
    rw [propertyLineFeeds]
    split <;> omega
  simp only [writtenLineFeeds, Nat.add_eq_zero_iff, List.sum_eq_zero_iff_forall_eq_nat, List.forall_mem_map,
    property, Text.lineFeeds_eq_zero_iff, and_assoc]

end Resolved

/-- The number of line feeds in a rendered source whose header, if it has one, is a single line. -/
theorem line_count_of_generate {settings : Settings} {d : Descriptor} {source : String}
    (generated : ((Template.entity settings).generate d).run.value = .ok source)
    (rendered : source ≠ "")
    (oneLine : ∀ text, settings.header = some text → '\n' ∉ text.toList) :
    ∃ c, (ofDescriptor d).run.value = .ok c ∧ source = c.source settings ∧
      source.toList.count '\n' =
        lineCount settings d c.imports + writtenLineFeeds settings d c.imports ∧
      (source.toList.count '\n' = lineCount settings d c.imports ↔
        '\n' ∉ d.package.toList ∧ (∀ name ∈ c.imports, '\n' ∉ name.toList) ∧
          ∀ property ∈ d.properties,
            '\n' ∉ (d.typeText property.type).toList ∧ '\n' ∉ property.name.toList) := by
  obtain ⟨_, valid, c, resolved, rfl⟩ := Template.rendered_iff.mp ⟨generated, rendered⟩
  have counted := count_newline_source resolved valid oneLine
  refine ⟨c, resolved, rfl, counted, ?_⟩
  rw [counted, ← writtenLineFeeds_eq_zero_iff settings]
  omega

/-- A type with a description of two lines and with a line feed in the name of its property. -/
def brokenName : Descriptor where
  name := "Foo"
  qualifiedName := "org.example.Foo"
  capabilities := [Capability.augmentable]
  properties := [{ name := "first\nsecond", type := ⟨"java.lang.Boolean", by decide⟩ }]
  description := some "one\ntwo"

def brokenNameClass : EntityClass where
  package := "org.example"
  name := "FooEntity"
  imports := []
  description := some "one\ntwo"
  fields := [{
    name := "first\nsecond", accessor := "First\nsecond", typeName := "Boolean"
    description := none }]

theorem ofDescriptor_brokenName : (ofDescriptor brokenName).run.value = .ok brokenNameClass := by
  rfl

theorem rendered_brokenName (settings : Settings) :
    ((Template.entity settings).generate brokenName).run.value =
        .ok (brokenNameClass.source settings) ∧
      brokenNameClass.source settings ≠ "" :=
  Template.rendered_iff.mpr
    ⟨rfl, by rfl, brokenNameClass, ofDescriptor_brokenName, rfl⟩

/-- The name of a property can add a line of its own. -/
theorem names_can_add_lines :
    ∃ settings source c, ((Template.entity settings).generate brokenName).run.value = .ok source ∧
      source ≠ "" ∧ (ofDescriptor brokenName).run.value = .ok c ∧ source = c.source settings ∧
      source.toList.count '\n' ≠ lineCount settings brokenName c.imports := by
  obtain ⟨generated, rendered⟩ := rendered_brokenName { generateAccessors := false }
  refine ⟨_, _, brokenNameClass, generated, rendered, ofDescriptor_brokenName, rfl, ?_⟩
  rw [count_newline_source ofDescriptor_brokenName (by rfl) (fun _ noHeader => by cases noHeader)]
  intro same
  have unbroken := Nat.add_eq_left.mp same
  obtain ⟨_, _, clean⟩ := (writtenLineFeeds_eq_zero_iff _ _ _).mp unbroken
  exact (clean _ List.mem_cons_self).2 (by decide)

/-- With accessors the name is written seven times, and the description adds no line of its own. -/
theorem line_count_of_brokenName :
    ∃ source, ((Template.entity { header := some "generated" }).generate brokenName).run.value =
        .ok source ∧ source ≠ "" ∧
      (∀ text, some "generated" = some text → '\n' ∉ text.toList) ∧
      source.toList.count '\n' = 20 + 7 := by
  obtain ⟨generated, rendered⟩ := rendered_brokenName { header := some "generated" }
  have oneLine : ∀ text, some "generated" = some text → '\n' ∉ text.toList := by
    rintro text same
    cases same
    decide
  obtain ⟨c, resolved, _, counted, _⟩ := line_count_of_generate generated rendered oneLine
  obtain rfl : brokenNameClass = c := Except.ok.inj (ofDescriptor_brokenName.symm.trans resolved)
  refine ⟨_, generated, rendered, oneLine, counted.trans ?_⟩
  decide +kernel

end EntityClass

end Companion
