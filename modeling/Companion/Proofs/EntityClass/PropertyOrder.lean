import Companion.Proofs.EntityClass.SettingsParts
import Companion.Proofs.EntityClass.TypeText
import Companion.Proofs.Generation.Outcome
import Mathlib.Data.List.Find
import Mathlib.Data.List.Sort

/-!
# The order of properties

The first type to ask for a simple name holds it, and of the implicit types the last one does, so
the order of the properties can decide how a type is written. It decides nothing where no two
types want the same simple name: whoever finds a name finds the only type with it.
-/

namespace Companion

namespace History

variable {types others : List TypeRef}

def Unrivalled (types : List TypeRef) : Prop :=
  ∀ a ∈ types, ∀ b ∈ types, a.simpleName = b.simpleName → a = b

/-- Where only one type can be found, it does not matter where the search begins. -/
theorem first?_perm (unrivalled : Unrivalled types) (perm : types.Perm others)
    (simpleName : String) : first? types simpleName = first? others simpleName := by
  apply List.find?_eq_find?_of_perm perm
  rintro a ⟨aInside, aNamed⟩ b ⟨bInside, bNamed⟩
  have names := (of_decide_eq_true aNamed).trans (of_decide_eq_true bNamed).symm
  exact unrivalled a aInside b bInside names

theorem lastImplicit?_perm (unrivalled : Unrivalled types) (perm : types.Perm others)
    (simpleName : String) : lastImplicit? types simpleName = lastImplicit? others simpleName := by
  -- The last type is the first one of the reversed list.
  have reversed : types.reverse.Perm others.reverse :=
    ((List.reverse_perm types).trans perm).trans (List.reverse_perm others).symm
  apply List.find?_eq_find?_of_perm reversed
  rintro a ⟨aInside, aFound⟩ b ⟨bInside, bFound⟩
  have aNamed := of_decide_eq_true ((Bool.and_eq_true _ _).mp aFound).2
  have bNamed := of_decide_eq_true ((Bool.and_eq_true _ _).mp bFound).2
  exact unrivalled a (List.mem_reverse.mp aInside) b (List.mem_reverse.mp bInside)
    (aNamed.trans bNamed.symm)

end History

section Reordered

variable {d : Descriptor} {properties : List Property}

namespace Descriptor

theorem types_perm (perm : properties.Perm d.properties) :
    ({ d with properties } : Descriptor).types.Perm d.types :=
  perm.map Property.type

theorem holder?_perm (unrivalled : History.Unrivalled d.types)
    (perm : properties.Perm d.properties) (simpleName : String) :
    ({ d with properties } : Descriptor).holder? simpleName = d.holder? simpleName := by
  have last := History.lastImplicit?_perm unrivalled (types_perm perm).symm simpleName
  have first := History.first?_perm unrivalled (types_perm perm).symm simpleName
  rw [holder?, holder?, last, first]
  rfl

theorem typeText_perm (unrivalled : History.Unrivalled d.types)
    (perm : properties.Perm d.properties) (target : TypeRef) :
    ({ d with properties } : Descriptor).typeText target = d.typeText target := by
  rw [typeText_eq, typeText_eq, holder?_perm unrivalled perm]

theorem validate_perm (perm : properties.Perm d.properties) :
    ({ d with properties } : Descriptor).validate = .ok () ↔ d.validate = .ok () := by
  rw [validate_eq_ok_iff, validate_eq_ok_iff]
  simp only [perm.mem_iff]

theorem types_unrivalled
    (unrivalled : ∀ p ∈ d.properties, ∀ q ∈ d.properties,
      p.type.canonicalName ≠ q.type.canonicalName → p.type.simpleName ≠ q.type.simpleName) :
    History.Unrivalled d.types := by
  intro a aInside b bInside names
  obtain ⟨p, pInside, rfl⟩ := List.mem_map.mp aInside
  obtain ⟨q, qInside, rfl⟩ := List.mem_map.mp bInside
  by_contra different
  refine unrivalled p pInside q qInside (fun same => ?_) names
  exact different (TypeRef.eq_of_canonicalName_eq same)

end Descriptor

namespace EntityClass

variable {c c' : EntityClass}

/-- The import lines are sorted, so they are the same as soon as the imported types are. -/
theorem imports_perm (unrivalled : History.Unrivalled d.types)
    (perm : properties.Perm d.properties) (valid : d.validate = .ok ())
    (resolved : (ofDescriptor d).run.value = .ok c)
    (resolved' : (ofDescriptor { d with properties }).run.value = .ok c') :
    c'.imports = c.imports := by
  have valid' := (Descriptor.validate_perm perm).mpr valid
  apply (imports_ascending_of_ofDescriptor resolved').eq_of_mem_iff
    (imports_ascending_of_ofDescriptor resolved)
  intro name
  rw [mem_imports_of_ofDescriptor resolved' valid', mem_imports_of_ofDescriptor resolved valid]
  simp only [Descriptor.holder?_perm unrivalled perm]
  rfl

theorem mem_zip_fields_perm (unrivalled : History.Unrivalled d.types)
    (perm : properties.Perm d.properties) (valid : d.validate = .ok ())
    (resolved : (ofDescriptor d).run.value = .ok c)
    (resolved' : (ofDescriptor { d with properties }).run.value = .ok c')
    (property : Property) (field : Field) :
    (property, field) ∈ properties.zip c'.fields ↔
      (property, field) ∈ d.properties.zip c.fields := by
  have valid' := (Descriptor.validate_perm perm).mpr valid
  rw [mem_zip_fields_iff resolved valid, ← Descriptor.typeText_perm unrivalled perm]
  refine (mem_zip_fields_iff resolved' valid' property field).trans ?_
  rw [perm.mem_iff]

theorem declarations_perm (unrivalled : History.Unrivalled d.types)
    (perm : properties.Perm d.properties) (valid : d.validate = .ok ())
    (resolved : (ofDescriptor d).run.value = .ok c)
    (resolved' : (ofDescriptor { d with properties }).run.value = .ok c') :
    (c'.fields.map Field.declaration).Perm (c.fields.map Field.declaration) := by
  have valid' := (Descriptor.validate_perm perm).mpr valid
  rw [fields_of_ofDescriptor resolved valid, fields_of_ofDescriptor resolved' valid']
  simp only [Descriptor.typeText_perm unrivalled perm]
  exact (perm.map _).map _

/-- The rows of a unit from its fields to its end, each type being written by a given text. -/
def memberRows (settings : Settings) (text : TypeRef → String) (properties : List Property) :
    List Row :=
  properties.map (fun property =>
    ⟨1, ("private " ++ text property.type ++ " " ++ Text.uncapitalized property.name ++
      ";").toList⟩) ++
  (if settings.generateAccessors then
    properties.flatMap fun property =>
      Row.blank :: descriptionRows settings 1 property.description ++
        [⟨1, ("public " ++ text property.type ++ " get" ++ Text.capitalized property.name ++
            "() \x7b").toList⟩,
          ⟨2, ("return " ++ Text.uncapitalized property.name ++ ";").toList⟩,
          ⟨1, ['\x7d']⟩,
          Row.blank,
          ⟨1, ("public void set" ++ Text.capitalized property.name ++ "(" ++ text property.type ++
            " " ++ Text.uncapitalized property.name ++ ") \x7b").toList⟩,
          ⟨2, ("this." ++ Text.uncapitalized property.name ++ " = " ++
            Text.uncapitalized property.name ++ ";").toList⟩,
          ⟨1, ['\x7d']⟩]
  else []) ++
  [⟨0, ['\x7d']⟩]

/-- The rows of a class from its head to its end, each type being written by a given text. -/
def classRows (settings : Settings) (unit : String) (text : TypeRef → String)
    (properties : List Property) : List Row :=
  ⟨0, ("public class " ++ unit ++ " \x7b").toList⟩ ::
    (if properties = [] then [] else [Row.blank]) ++ memberRows settings text properties

theorem classRows_of_fields (settings : Settings) {text : TypeRef → String}
    (fields : c.fields = properties.map fun property =>
      Field.ofProperty property (text property.type)) :
    c.fieldRows ++ c.accessorRows settings ++ [⟨0, ['\x7d']⟩] =
      classRows settings c.name text properties := by
  rw [fieldRows, accessorRows, fields, classRows, memberRows, List.map_map, List.flatMap_map]
  simp only [List.map_eq_nil_iff, List.cons_append, List.append_assoc]
  rfl

theorem source_of_ofDescriptor (settings : Settings)
    (resolved : (ofDescriptor d).run.value = .ok c) (valid : d.validate = .ok ()) :
    c.source settings =
      laidOut settings.indentSize (headerRows settings.header ++ packageRows d.package ++
          importRows c.imports ++ descriptionRows settings 0 d.description) ++
        laidOut settings.indentSize
          (classRows settings d.companionName d.typeText d.properties) := by
  have below := classRows_of_fields settings (fields_of_ofDescriptor resolved valid)
  obtain ⟨package, name, description⟩ := parts_of_ofDescriptor resolved
  rw [← name, ← below, ← package, ← description, ← laidOut_append, source_eq_laidOut, rows_eq,
    namingRows]
  simp only [List.append_assoc]

end EntityClass

end Reordered

namespace Template

variable {settings : Settings} {d : Descriptor} {properties : List Property}

theorem exists_ok_iff {template : Template} :
    (∃ source, (template.generate d).run.value = .ok source) ↔
      (template.generate d).run.value = .ok "" ∨
        ∃ source, (template.generate d).run.value = .ok source ∧ source ≠ "" := by
  constructor
  · rintro ⟨source, generated⟩
    by_cases empty : source = ""
    · rw [empty] at generated
      exact Or.inl generated
    · exact Or.inr ⟨source, generated, empty⟩
  · rintro (generated | ⟨source, generated, _⟩)
    · exact ⟨"", generated⟩
    · exact ⟨source, generated⟩

theorem ok_empty_perm (settings : Settings) (d : Descriptor) (properties : List Property) :
    ((entity settings).generate { d with properties }).run.value = .ok "" ↔
      ((entity settings).generate d).run.value = .ok "" := by
  rw [value_eq_ok_empty_iff, value_eq_ok_empty_iff]
  rfl

theorem exists_rendered_perm (perm : properties.Perm d.properties) :
    (∃ source, ((entity settings).generate { d with properties }).run.value = .ok source ∧
        source ≠ "") ↔
      ∃ source, ((entity settings).generate d).run.value = .ok source ∧ source ≠ "" := by
  have names : (properties.map Property.fieldName).Nodup ↔
      (d.properties.map Property.fieldName).Nodup := (perm.map Property.fieldName).nodup_iff
  rw [exists_rendered_iff, exists_rendered_iff]
  exact and_congr Iff.rfl
    (and_congr (Descriptor.validate_perm perm) (and_congr Iff.rfl names))

/-- The order of the properties decides neither whether there is a source nor, unless two types want
the same simple name, what it says: everything before the class stays as it is, every property
keeps its field, and the rest is written for the properties in their order. -/
theorem property_order_of_generate (perm : properties.Perm d.properties) :
    ((∃ source, ((entity settings).generate { d with properties }).run.value = .ok source) ↔
      ∃ source, ((entity settings).generate d).run.value = .ok source) ∧
    (((entity settings).generate { d with properties }).run.value = .ok "" ↔
      ((entity settings).generate d).run.value = .ok "") ∧
    ((∀ p ∈ d.properties, ∀ q ∈ d.properties,
        p.type.canonicalName ≠ q.type.canonicalName → p.type.simpleName ≠ q.type.simpleName) →
      ∀ source, ((entity settings).generate d).run.value = .ok source → source ≠ "" →
      ∃ c c' above source',
        ((entity settings).generate { d with properties }).run.value = .ok source' ∧
        (EntityClass.ofDescriptor d).run.value = .ok c ∧ source = c.source settings ∧
        (EntityClass.ofDescriptor { d with properties }).run.value = .ok c' ∧
        source' = c'.source settings ∧
        source = above ++ EntityClass.laidOut settings.indentSize
          (EntityClass.classRows settings d.companionName d.typeText d.properties) ∧
        source' = above ++ EntityClass.laidOut settings.indentSize
          (EntityClass.classRows settings d.companionName d.typeText properties) ∧
        (∀ property field, (property, field) ∈ properties.zip c'.fields ↔
          (property, field) ∈ d.properties.zip c.fields) ∧
        (c'.fields.map EntityClass.Field.declaration).Perm
          (c.fields.map EntityClass.Field.declaration) ∧
        source = String.ofList (c.text settings) ∧ source' = String.ofList (c'.text settings)) := by
  refine ⟨?_, ok_empty_perm settings d properties, ?_⟩
  · rw [exists_ok_iff, exists_ok_iff, ok_empty_perm, exists_rendered_perm perm]
  · intro apart source generated rendered
    have unrivalled := Descriptor.types_unrivalled apart
    obtain ⟨source', generated', rendered'⟩ :=
      (exists_rendered_perm perm).mpr ⟨source, generated, rendered⟩
    obtain ⟨_, valid, c, resolved, written⟩ := rendered_iff.mp ⟨generated, rendered⟩
    obtain ⟨_, valid', c', resolved', written'⟩ := rendered_iff.mp ⟨generated', rendered'⟩
    have imports := EntityClass.imports_perm unrivalled perm valid resolved resolved'
    have text : ({ d with properties } : Descriptor).typeText = d.typeText :=
      funext (Descriptor.typeText_perm unrivalled perm)
    refine ⟨c, c', _, source', generated', resolved, written, resolved', written',
      written.trans (EntityClass.source_of_ofDescriptor settings resolved valid), ?_,
      EntityClass.mem_zip_fields_perm unrivalled perm valid resolved resolved',
      EntityClass.declarations_perm unrivalled perm valid resolved resolved',
      written.trans (EntityClass.source_eq_text settings c),
      written'.trans (EntityClass.source_eq_text settings c')⟩
    rw [written', EntityClass.source_of_ofDescriptor settings resolved' valid', imports, text]
    rfl

def neighbours : Descriptor where
  name := "Link"
  qualifiedName := "org.example.Link"
  capabilities := [Capability.augmentable]
  properties := [
    { name := "since", type := ⟨"java.time.Instant", by decide⟩ },
    { name := "weight", type := ⟨"java.lang.Float", by decide⟩ },
    { name := "until", type := ⟨"java.time.Instant", by decide⟩ },
    { name := "peer", type := ⟨"org.example.Peer", by decide⟩ }]

theorem property_order_of_neighbours :
    neighbours.properties.reverse.Perm neighbours.properties ∧
      (∀ p ∈ neighbours.properties, ∀ q ∈ neighbours.properties,
        p.type.canonicalName ≠ q.type.canonicalName → p.type.simpleName ≠ q.type.simpleName) ∧
      ∃ source source' above,
        ((entity {}).generate neighbours).run.value = .ok source ∧ source ≠ "" ∧
        ((entity {}).generate
          { neighbours with properties := neighbours.properties.reverse }).run.value =
            .ok source' ∧
        source = above ++ EntityClass.laidOut 4 (EntityClass.classRows {}
          neighbours.companionName neighbours.typeText neighbours.properties) ∧
        source' = above ++ EntityClass.laidOut 4 (EntityClass.classRows {}
          neighbours.companionName neighbours.typeText neighbours.properties.reverse) := by
  have apart : ∀ p ∈ neighbours.properties, ∀ q ∈ neighbours.properties,
      p.type.canonicalName ≠ q.type.canonicalName → p.type.simpleName ≠ q.type.simpleName := by
    decide
  have perm := List.reverse_perm neighbours.properties
  obtain ⟨source, generated, rendered⟩ :=
    exists_rendered_of_isOk {} (show neighbours.hasCompanion = true from rfl) (by rfl) (by rfl)
  obtain ⟨_, _, unrivalled⟩ := property_order_of_generate perm
  obtain ⟨c, c', above, source', generated', _, _, _, _, text, text', _⟩ :=
    unrivalled apart source generated rendered
  exact ⟨perm, apart, source, source', above, generated, rendered, generated', text, text'⟩

end Template

end Companion
