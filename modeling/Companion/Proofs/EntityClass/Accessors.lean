import Companion.Proofs.EntityClass.FieldNames
import Companion.Proofs.EntityClass.Written
import Companion.Proofs.Generation.Rendered
import Companion.Proofs.Text.Capital

/-!
# The names of accessors

Only the names of fields are compared when a class is resolved. That keeps the names of accessors
apart as long as the names of the properties begin plainly, as all ASCII names do. Two properties can
share their accessors if one of them begins with a character whose upper case leads back to another
lower case.
-/

namespace Companion

namespace EntityClass

variable {d : Descriptor} {c : EntityClass}

theorem accessors_of_ofDescriptor (resolved : (ofDescriptor d).run.value = .ok c) :
    c.fields.map Field.accessor =
      d.properties.map fun property => Text.capitalized property.name :=
  map_fields_of_ofDescriptor (fun _ _ => rfl) resolved

/-- Properties with distinct field names share an accessor only if one of them does not begin
plainly. -/
theorem pairwise_capitalized_of_nodup {properties : List Property}
    (filled : ∀ property ∈ properties, property.name ≠ "")
    (distinct : (properties.map Property.fieldName).Nodup) :
    properties.Pairwise fun p q =>
      Text.beginsPlainly p.name = true → Text.beginsPlainly q.name = true →
        Text.capitalized p.name ≠ Text.capitalized q.name := by
  have apart : properties.Pairwise fun p q => p.fieldName ≠ q.fieldName :=
    List.pairwise_map.mp distinct
  refine apart.imp_of_mem ?_
  intro p q pInside qInside different pPlain qPlain same
  exact different (Text.uncapitalized_eq_of_capitalized_eq pPlain qPlain (filled p pInside)
    (filled q qInside) same)

end EntityClass

/-- A descriptor without a defect has no property without a name. -/
theorem Descriptor.name_ne_empty_of_validate {d : Descriptor} (valid : d.validate = .ok ()) :
    ∀ property ∈ d.properties, property.name ≠ "" :=
  ((validate_eq_ok_iff d).mp valid).2.2.2

namespace EntityClass

theorem nodup_accessors_of_plain (resolved : (ofDescriptor d).run.value = .ok c)
    (valid : d.validate = .ok ())
    (plain : ∀ property ∈ d.properties, Text.beginsPlainly property.name = true) :
    (c.fields.map Field.accessor).Nodup := by
  have apart := pairwise_capitalized_of_nodup (Descriptor.name_ne_empty_of_validate valid)
    (nodup_fieldNames_of_ofDescriptor resolved)
  rw [accessors_of_ofDescriptor resolved, List.Nodup, List.pairwise_map]
  refine apart.imp_of_mem ?_
  intro p q pInside qInside different
  exact different (plain p pInside) (plain q qInside)

/-- Which properties of a rendered class can share their accessors: only those of which one does
not begin plainly. None do if all names begin with an ASCII character. -/
theorem accessors_of_generate {settings : Settings} {d : Descriptor} {source : String}
    (generated : ((Template.entity settings).generate d).run.value = .ok source)
    (rendered : source ≠ "") :
    ∃ c, (ofDescriptor d).run.value = .ok c ∧ source = c.source settings ∧
      source = String.ofList (c.text settings) ∧
      c.fields.map Field.accessor =
        d.properties.map (fun property => Text.capitalized property.name) ∧
      d.properties.Pairwise (fun p q =>
        Text.capitalized p.name = Text.capitalized q.name →
          Text.beginsPlainly p.name = false ∨ Text.beginsPlainly q.name = false) ∧
      ((∀ property ∈ d.properties, Text.beginsPlainly property.name = true) →
        (c.fields.map Field.accessor).Nodup) ∧
      ((∀ property ∈ d.properties, ∀ first ∈ property.name.toList.head?, first.toNat < 128) →
        (c.fields.map Field.accessor).Nodup) := by
  obtain ⟨_, valid, c, resolved, written⟩ := Template.rendered_iff.mp ⟨generated, rendered⟩
  have apart := pairwise_capitalized_of_nodup (Descriptor.name_ne_empty_of_validate valid)
    (nodup_fieldNames_of_ofDescriptor resolved)
  refine ⟨c, resolved, written, written.trans (source_eq_text settings c),
    accessors_of_ofDescriptor resolved, ?_,
    nodup_accessors_of_plain resolved valid, ?_⟩
  · refine apart.imp ?_
    intro p q different same
    cases pPlain : Text.beginsPlainly p.name with
    | false => exact Or.inl rfl
    | true =>
        cases qPlain : Text.beginsPlainly q.name with
        | false => exact Or.inr rfl
        | true => exact absurd same (different pPlain qPlain)
  · intro ascii
    refine nodup_accessors_of_plain resolved valid fun property inside => ?_
    exact Text.beginsPlainly_of_ascii (ascii property inside)

def plainLetters : Descriptor where
  name := "Foo"
  qualifiedName := "org.example.Foo"
  capabilities := [Capability.augmentable]
  properties := [
    { name := "size", type := ⟨"java.lang.Integer", by decide⟩ },
    { name := "\u00e9tat", type := ⟨"java.lang.Long", by decide⟩ },
    { name := "\u03a9mega", type := ⟨"java.lang.Double", by decide⟩ }]

theorem accessors_of_plainLetters :
    ∃ source c, ((Template.entity {}).generate plainLetters).run.value = .ok source ∧ source ≠ "" ∧
      (ofDescriptor plainLetters).run.value = .ok c ∧
      (∀ property ∈ plainLetters.properties, Text.beginsPlainly property.name = true) ∧
      (c.fields.map Field.accessor).Nodup := by
  have plain : ∀ property ∈ plainLetters.properties, Text.beginsPlainly property.name = true := by
    decide
  obtain ⟨source, generated, rendered⟩ :=
    Template.exists_rendered_of_isOk {} (show plainLetters.hasCompanion = true from rfl) (by rfl)
      (by rfl)
  obtain ⟨c, resolved, _, _, _, _, apart, _⟩ := accessors_of_generate generated rendered
  exact ⟨source, c, generated, rendered, resolved, plain, apart plain⟩

/-- Two properties that begin with a small letter s, the second one in its long form. -/
def longLetter : Descriptor where
  name := "Foo"
  qualifiedName := "org.example.Foo"
  capabilities := [Capability.augmentable]
  properties := [
    { name := "size", type := ⟨"java.lang.Integer", by decide⟩ },
    { name := "\u017fize", type := ⟨"java.lang.Integer", by decide⟩ }]

def longLetterClass : EntityClass where
  package := "org.example"
  name := "FooEntity"
  imports := []
  description := none
  fields := [
    { name := "size", accessor := "Size", typeName := "Integer", description := none },
    { name := "\u017fize", accessor := "Size", typeName := "Integer", description := none }]

theorem ofDescriptor_longLetter : (ofDescriptor longLetter).run.value = .ok longLetterClass := by
  rfl

theorem rendered_longLetter (settings : Settings) :
    ((Template.entity settings).generate longLetter).run.value =
        .ok (longLetterClass.source settings) ∧
      longLetterClass.source settings ≠ "" :=
  Template.rendered_iff.mpr
    ⟨rfl, by rfl, longLetterClass, ofDescriptor_longLetter, rfl⟩

/-- Both properties get the same getter and the same setter, with accessors switched on. -/
theorem accessors_can_clash :
    ∃ settings source c, settings.generateAccessors = true ∧
      ((Template.entity settings).generate longLetter).run.value = .ok source ∧ source ≠ "" ∧
      (ofDescriptor longLetter).run.value = .ok c ∧ source = c.source settings ∧
      ¬ (longLetter.properties.map fun property => Text.capitalized property.name).Nodup ∧
      ¬ (c.fields.map Field.accessor).Nodup ∧ ¬ (c.fields.map Field.getterHead).Nodup := by
  obtain ⟨generated, rendered⟩ := rendered_longLetter {}
  refine ⟨{}, _, longLetterClass, rfl, generated, rendered, ofDescriptor_longLetter, rfl, ?_, ?_,
    ?_⟩
  all_goals decide

end EntityClass

end Companion
