import Companion.Generation

/-!
# When a source is rendered

The text of a companion is empty exactly where the type gets none, so a text that is not empty comes
from a descriptor without a defect whose class could be resolved. The name of such a class holds no
dot.
-/

namespace Companion

set_option maxRecDepth 20000 in
/-- No identifier can be cut into segments, lines or parts of a path. -/
theorem isIdentifierChar_separators :
    isIdentifierChar '.' = false ∧ isIdentifierChar '\n' = false ∧ isIdentifierChar '/' = false := by
  decide

theorem not_mem_of_isIdentifierOrEmpty {name : String} {c : Char}
    (passed : isIdentifierOrEmpty name = true) (foreign : isIdentifierChar c = false) :
    c ∉ name.toList := by
  unfold isIdentifierOrEmpty at passed
  cases chars : name.toList with
  | nil => exact List.not_mem_nil
  | cons first rest =>
      rw [chars] at passed
      obtain ⟨_, letters⟩ := (Bool.and_eq_true _ _).mp passed
      intro inside
      have letter := List.all_eq_true.mp letters c inside
      rw [foreign] at letter
      cases letter

namespace Descriptor

theorem validate_eq_ok_iff (d : Descriptor) :
    d.validate = .ok () ↔
      d.qualifiedName ≠ "" ∧ isIdentifierOrEmpty d.name = true ∧
        (∀ capability ∈ d.capabilities, capability ≠ "") ∧
        ∀ property ∈ d.properties, property.name ≠ "" := by
  have capabilities : (∀ capability ∈ d.capabilities, capability ≠ "") ↔
      d.capabilities.findIdx? (· = "") = none := by
    simp [List.findIdx?_eq_none_iff]
  have properties : (∀ property ∈ d.properties, property.name ≠ "") ↔
      d.properties.findIdx? (·.name = "") = none := by
    simp [List.findIdx?_eq_none_iff]
  rw [capabilities, properties, validate]
  by_cases unnamed : d.qualifiedName = ""
  · simp [unnamed]
  · cases identifier : isIdentifierOrEmpty d.name with
    | false => simp [unnamed]
    | true =>
        cases d.capabilities.findIdx? (· = "") with
        | some position => simp [unnamed]
        | none => cases d.properties.findIdx? (·.name = "") <;> simp [unnamed]

/-- A character of the name of a companion comes from the name of the type or from the suffix. -/
theorem not_mem_companionName_of_free {d : Descriptor} {c : Char} (free : c ∉ d.name.toList)
    (other : c ∉ companionSuffix.toList) : c ∉ d.companionName.toList := by
  rw [companionName, companionNameOf, String.toList_append, List.mem_append, not_or]
  exact ⟨free, other⟩

/-- The name of a companion holds no character that is foreign to identifiers. -/
theorem not_mem_companionName {d : Descriptor} {c : Char} (valid : d.validate = .ok ())
    (foreign : isIdentifierChar c = false) (other : c ∉ companionSuffix.toList) :
    c ∉ d.companionName.toList := by
  have free := not_mem_of_isIdentifierOrEmpty ((validate_eq_ok_iff d).mp valid).2.1 foreign
  exact not_mem_companionName_of_free free other

theorem dot_not_mem_companionName {d : Descriptor} (valid : d.validate = .ok ()) :
    '.' ∉ d.companionName.toList :=
  not_mem_companionName valid isIdentifierChar_separators.1 (by decide)

theorem newline_not_mem_companionName {d : Descriptor} (valid : d.validate = .ok ()) :
    '\n' ∉ d.companionName.toList :=
  not_mem_companionName valid isIdentifierChar_separators.2.1 (by decide)

theorem slash_not_mem_companionName {d : Descriptor} (valid : d.validate = .ok ()) :
    '/' ∉ d.companionName.toList :=
  not_mem_companionName valid isIdentifierChar_separators.2.2 (by decide)

end Descriptor

/-- A source has at least the row that closes the class. -/
theorem EntityClass.source_ne_empty (settings : Settings) (c : EntityClass) :
    c.source settings ≠ "" := by
  rw [source, rows, List.flatMap_append]
  intro empty
  have noRows := String.ofList_eq_empty_iff.mp empty
  exact absurd (List.append_eq_nil_iff.mp noRows).2 (by simp [Row.layout])

namespace Template

theorem value_generate (template : Template) (d : Descriptor) :
    (template.generate d).run.value =
      if d.hasCompanion then
        match d.validate with
        | .error defect => .error (.invalidDescriptor defect)
        | .ok () => (template.render d).run.value
      else
        .ok "" := by
  unfold generate Descriptor.requireValid
  cases d.hasCompanion with
  | false => rfl
  | true => cases d.validate <;> rfl

theorem validate_of_generate {template : Template} {d : Descriptor} {source : String}
    (generated : (template.generate d).run.value = .ok source) (rendered : source ≠ "") :
    d.validate = .ok () := by
  rw [value_generate] at generated
  split at generated
  · cases valid : d.validate with
    | ok done => rfl
    | error defect =>
        rw [valid] at generated
        cases generated
  · cases generated
    exact absurd rfl rendered

theorem value_render_entity (settings : Settings) (d : Descriptor) :
    ((entity settings).render d).run.value =
      match (EntityClass.ofDescriptor d).run.value with
      | .ok c => .ok (c.source settings)
      | .error error => .error error := by
  rw [entity, Rendering.value_bind]
  cases (EntityClass.ofDescriptor d).run.value <;> rfl

/-- Exactly the sources of the resolved classes of accepted and valid descriptors are rendered. -/
theorem rendered_iff {settings : Settings} {d : Descriptor} {source : String} :
    (((entity settings).generate d).run.value = .ok source ∧ source ≠ "") ↔
      d.hasCompanion = true ∧ d.validate = .ok () ∧
        ∃ c, (EntityClass.ofDescriptor d).run.value = .ok c ∧ source = c.source settings := by
  rw [value_generate, value_render_entity]
  constructor
  · rintro ⟨generated, rendered⟩
    split at generated
    · next accepted =>
        split at generated
        · cases generated
        · next valid =>
            split at generated
            · next c resolved =>
                cases generated
                exact ⟨accepted, valid, c, resolved, rfl⟩
            · cases generated
    · cases generated
      exact absurd rfl rendered
  · rintro ⟨accepted, valid, c, resolved, rfl⟩
    rw [if_pos accepted, valid, resolved]
    exact ⟨rfl, EntityClass.source_ne_empty settings c⟩

theorem exists_rendered_of_isOk {d : Descriptor} (settings : Settings)
    (accepted : d.hasCompanion = true) (valid : d.validate = .ok ())
    (success : (EntityClass.ofDescriptor d).run.value.isOk = true) :
    ∃ source, ((entity settings).generate d).run.value = .ok source ∧ source ≠ "" := by
  cases resolved : (EntityClass.ofDescriptor d).run.value with
  | error error =>
      rw [resolved] at success
      cases success
  | ok c => exact ⟨_, rendered_iff.mpr ⟨accepted, valid, c, resolved, rfl⟩⟩

end Template

end Companion
