import Companion.Proofs.EntityClass.TypeText

/-!
# The import section

The imports of a companion are the types of its properties that hold a simple name in the end and
that the unit does not see otherwise: the last implicit type with the name, or else the first type
with it, unless the name is the unit's own. Each of them is used.
-/

namespace Companion

namespace Descriptor

variable {d : Descriptor}

/-- Everything that holds a simple name is the unit or the type of a property. -/
theorem eq_qualify_or_mem_of_holder? {simpleName name : String}
    (held : d.holder? simpleName = some name) :
    name = qualify d.package d.companionName ∨ ∃ ref ∈ d.types, ref.canonicalName = name := by
  cases found : History.lastImplicit? d.types simpleName with
  | some last =>
      rw [holder?_of_implicit found, Option.some.injEq] at held
      exact Or.inr ⟨last, (History.of_lastImplicit?_eq_some found).1, held⟩
  | none =>
      by_cases unit : simpleName = d.companionName
      · rw [holder?_of_own found unit, Option.some.injEq] at held
        exact Or.inl held.symm
      · rw [holder?_of_first found unit, Option.map_eq_some_iff] at held
        obtain ⟨first, earliest, same⟩ := held
        exact Or.inr ⟨first, (History.of_first?_eq_some earliest).1, same⟩

/-- Which types outside the unit's package hold their simple names. -/
theorem holder?_simpleName_iff (valid : d.validate = .ok ()) {ref : TypeRef}
    (away : ref.package ≠ d.package) :
    d.holder? ref.simpleName = some ref.canonicalName ↔
      ref ∈ d.types ∧
        (History.lastImplicit? d.types ref.simpleName = some ref ∨
          ((∀ other ∈ d.types, other.isImplicit = true → other.simpleName ≠ ref.simpleName) ∧
            ref.simpleName ≠ d.companionName ∧
            History.first? d.types ref.simpleName = some ref)) := by
  rw [holder?_eq_some_canonicalName_iff, History.lastImplicit?_eq_none_iff]
  constructor
  · rintro (last | ⟨_, _, own⟩ | ⟨free, other, first⟩)
    · exact ⟨(History.of_lastImplicit?_eq_some last).1, Or.inl last⟩
    · have parts := TypeRef.parts_of_eq_qualify own (dot_not_mem_companionName valid)
      exact absurd parts.1 away
    · exact ⟨(History.of_first?_eq_some first).1, Or.inr ⟨free, other, first⟩⟩
  · rintro ⟨_, last | ⟨free, other, first⟩⟩
    · exact Or.inl last
    · exact Or.inr (Or.inr ⟨free, other, first⟩)

end Descriptor

namespace EntityClass

theorem needsImport_canonicalName_iff (package : String) (ref : TypeRef) :
    needsImport package ref.canonicalName = true ↔
      ref.package ≠ "" ∧ ref.package ≠ implicitPackage ∧ ref.package ≠ package := by
  simp [needsImport, TypeRef.packagePart_canonicalName, and_assoc]

variable {d : Descriptor} {c : EntityClass}

/-- The imports are the types of properties that hold their simple names and pass the filter. -/
theorem mem_imports_iff_exists_holder (resolved : (ofDescriptor d).run.value = .ok c)
    (valid : d.validate = .ok ()) (name : String) :
    name ∈ c.imports ↔
      ∃ ref ∈ d.types, ref.canonicalName = name ∧
        d.holder? ref.simpleName = some ref.canonicalName ∧
        ref.package ≠ "" ∧ ref.package ≠ implicitPackage ∧ ref.package ≠ d.package := by
  rw [mem_imports_of_ofDescriptor resolved valid]
  constructor
  · rintro ⟨⟨simpleName, held⟩, needed⟩
    rcases Descriptor.eq_qualify_or_mem_of_holder? held with unit | ⟨ref, inside, rfl⟩
    · obtain ⟨own, _, named, _⟩ := history_of_ofDescriptor resolved
      have parts := TypeRef.parts_of_eq_qualify named (Descriptor.dot_not_mem_companionName valid)
      rw [unit, ← named, needsImport_canonicalName_iff] at needed
      exact absurd parts.1 needed.2.2
    · have names := Descriptor.simpleName_of_holder? valid held
      rw [← names] at held
      exact ⟨ref, inside, rfl, held, (needsImport_canonicalName_iff _ _).mp needed⟩
  · rintro ⟨ref, _, rfl, held, outside⟩
    exact ⟨⟨ref.simpleName, held⟩, (needsImport_canonicalName_iff _ _).mpr outside⟩

theorem canonicalName_mem_imports_iff (resolved : (ofDescriptor d).run.value = .ok c)
    (valid : d.validate = .ok ()) {ref : TypeRef} (named : ref.package ≠ "")
    (shown : ref.package ≠ implicitPackage) (away : ref.package ≠ d.package) :
    ref.canonicalName ∈ c.imports ↔ d.holder? ref.simpleName = some ref.canonicalName := by
  rw [mem_imports_iff_exists_holder resolved valid]
  constructor
  · rintro ⟨other, _, same, held, _⟩
    cases TypeRef.eq_of_canonicalName_eq same
    exact held
  · intro held
    have inside := ((Descriptor.holder?_simpleName_iff valid away).mp held).1
    exact ⟨ref, inside, rfl, held, named, shown, away⟩

theorem source_eq_text_of_ofDescriptor (settings : Settings)
    (resolved : (ofDescriptor d).run.value = .ok c) :
    c.source settings = String.ofList (headerText settings.header ++ packageText d.package ++
      c.imports.flatMap (fun name => ("import " ++ name ++ ";\n").toList) ++
      (if c.imports = [] then [] else ['\n']) ++ c.classText settings) := by
  rw [source_eq_text, text, (parts_of_ofDescriptor resolved).1]

/-- The import section of a rendered source: how and where it is written, which types it lists, in
which order, and that each of them is written by its simple name somewhere in the unit. -/
theorem import_section_of_generate {settings : Settings} {source : String}
    (generated : ((Template.entity settings).generate d).run.value = .ok source)
    (rendered : source ≠ "") :
    ∃ c, (ofDescriptor d).run.value = .ok c ∧
      source = String.ofList (headerText settings.header ++ packageText d.package ++
        c.imports.flatMap (fun name => ("import " ++ name ++ ";\n").toList) ++
        (if c.imports = [] then [] else ['\n']) ++ c.classText settings) ∧
      c.imports.Pairwise (· < ·) ∧
      (∀ a b : TypeRef, a.canonicalName ∈ c.imports → b.canonicalName ∈ c.imports →
        a.simpleName = b.simpleName → a = b) ∧
      (∀ name ∈ c.imports, ∃ ref : TypeRef, ref.canonicalName = name ∧
        ref.package ≠ "" ∧ ref.package ≠ implicitPackage ∧ ref.package ≠ d.package) ∧
      qualify d.package d.companionName ∉ c.imports ∧
      (∀ ref : TypeRef, ref.package ≠ "" → ref.package ≠ implicitPackage →
        ref.package ≠ d.package →
        (ref.canonicalName ∈ c.imports ↔
          ref ∈ d.types ∧
            (History.lastImplicit? d.types ref.simpleName = some ref ∨
              ((∀ other ∈ d.types, other.isImplicit = true →
                  other.simpleName ≠ ref.simpleName) ∧
                ref.simpleName ≠ d.companionName ∧
                History.first? d.types ref.simpleName = some ref)))) ∧
      (∀ name ∈ c.imports, ∃ property field, (property, field) ∈ d.properties.zip c.fields ∧
        property.type.canonicalName = name ∧ field.typeName = property.type.simpleName) := by
  obtain ⟨_, valid, c, resolved, written⟩ := Template.rendered_iff.mp ⟨generated, rendered⟩
  have listed := mem_imports_iff_exists_holder resolved valid
  refine ⟨c, resolved, written.trans (source_eq_text_of_ofDescriptor settings resolved),
    imports_ascending_of_ofDescriptor resolved, ?_, ?_, ?_, ?_, ?_⟩
  · intro a b aListed bListed names
    obtain ⟨first, _, firstName, firstHeld, _⟩ := (listed _).mp aListed
    obtain ⟨second, _, secondName, secondHeld, _⟩ := (listed _).mp bListed
    cases TypeRef.eq_of_canonicalName_eq firstName
    cases TypeRef.eq_of_canonicalName_eq secondName
    rw [names, secondHeld, Option.some.injEq] at firstHeld
    exact (TypeRef.eq_of_canonicalName_eq firstHeld).symm
  · intro name inside
    obtain ⟨ref, _, same, _, outside⟩ := (listed name).mp inside
    exact ⟨ref, same, outside⟩
  · intro inside
    obtain ⟨ref, _, same, _, _, _, away⟩ := (listed _).mp inside
    exact away (TypeRef.parts_of_eq_qualify same (Descriptor.dot_not_mem_companionName valid)).1
  · intro ref named shown away
    rw [canonicalName_mem_imports_iff resolved valid named shown away,
      Descriptor.holder?_simpleName_iff valid away]
  · intro name inside
    obtain ⟨ref, typed, same, held, _⟩ := (listed name).mp inside
    obtain ⟨property, declared, rfl⟩ := List.mem_map.mp typed
    refine ⟨property, _, (mem_zip_fields_iff resolved valid _ _).mpr ⟨declared, rfl⟩, same, ?_⟩
    exact (d.typeText_eq property.type).trans (if_pos (Or.inr held))

theorem import_section_of_rivals :
    ∃ source c, ((Template.entity {}).generate rivals).run.value = .ok source ∧ source ≠ "" ∧
      (ofDescriptor rivals).run.value = .ok c ∧ "java.util.Map" ∈ c.imports ∧
      "com.example.Map" ∉ c.imports ∧
      (∃ before after,
        source = String.ofList (before ++ "import java.util.Map;\n".toList ++ after)) ∧
      ∃ property field, (property, field) ∈ rivals.properties.zip c.fields ∧
        property.type.canonicalName = "java.util.Map" ∧
        field.typeName = property.type.simpleName := by
  obtain ⟨source, generated, rendered⟩ := rivals_rendered {}
  obtain ⟨c, resolved, written, _, _, _, _, listed, used⟩ :=
    import_section_of_generate generated rendered
  have first : "java.util.Map" ∈ c.imports :=
    (listed ⟨"java.util.Map", by decide⟩ (by decide) (by decide) (by decide)).mpr (by decide)
  refine ⟨source, c, generated, rendered, resolved, first, fun second => ?_, ?_, used _ first⟩
  · have holds := (listed ⟨"com.example.Map", by decide⟩ (by decide) (by decide) (by decide)).mp
      second
    revert holds
    decide
  · obtain ⟨earlier, later, split⟩ := List.append_of_mem first
    have row : ("import " ++ "java.util.Map" ++ ";\n").toList =
        "import java.util.Map;\n".toList := by decide
    simp only [split, List.flatMap_append, List.flatMap_cons, row, List.append_assoc] at written
    rw [← List.append_assoc, ← List.append_assoc, ← List.append_assoc] at written
    exact ⟨_, _, written⟩

end EntityClass

end Companion
