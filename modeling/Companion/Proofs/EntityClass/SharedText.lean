import Companion.Proofs.EntityClass.ImportSection

/-!
# Types that share a text

Outside the default package, two different types are written alike only if both are implicit, and
only implicit types are written like the unit without being it. A type written by its simple name
can be found: in its own package, in the implicit one, or on an import line. The one exception is an
implicit type whose simple name a later implicit type has taken over.
-/

namespace Companion

namespace Descriptor

variable {d : Descriptor} {p q : TypeRef}

theorem typeText_eq_simpleName_or (d : Descriptor) (target : TypeRef) :
    d.typeText target = target.simpleName ∨ d.typeText target = target.canonicalName := by
  rw [typeText_eq]
  split
  · exact Or.inl rfl
  · exact Or.inr rfl

theorem typeText_eq_simpleName_of_dot_not_mem (free : '.' ∉ (d.typeText p).toList) :
    d.typeText p = p.simpleName := by
  rcases d.typeText_eq_simpleName_or p with short | long
  · exact short
  · rw [long] at free
    exact d.typeText_of_package_eq_empty (TypeRef.package_eq_empty_of_dot_not_mem free)

/-- Full names tell types apart, so a shared text is the simple name of both. -/
theorem simpleNames_of_typeText_eq (different : p.canonicalName ≠ q.canonicalName)
    (same : d.typeText p = d.typeText q) :
    d.typeText p = p.simpleName ∧ d.typeText q = q.simpleName := by
  rcases d.typeText_eq_simpleName_or p with short | long
  · have free : '.' ∉ (d.typeText q).toList := by
      rw [← same, short]
      exact p.dot_not_mem_simpleName
    exact ⟨short, typeText_eq_simpleName_of_dot_not_mem free⟩
  · rcases d.typeText_eq_simpleName_or q with otherShort | otherLong
    · have free : '.' ∉ (d.typeText p).toList := by
        rw [same, otherShort]
        exact q.dot_not_mem_simpleName
      exact ⟨typeText_eq_simpleName_of_dot_not_mem free, otherShort⟩
    · exact absurd (long.symm.trans (same.trans otherLong)) different

theorem typeText_eq_typeText_iff (pInside : p ∈ d.types) (qInside : q ∈ d.types)
    (different : p.canonicalName ≠ q.canonicalName) :
    d.typeText p = d.typeText q ↔
      p.simpleName = q.simpleName ∧
        ((p.isImplicit = true ∧ q.isImplicit = true) ∨
          (p.package = "" ∧ d.typeText q = q.simpleName) ∨
          (q.package = "" ∧ d.typeText p = p.simpleName)) := by
  constructor
  · intro same
    obtain ⟨pShort, qShort⟩ := simpleNames_of_typeText_eq different same
    have names : p.simpleName = q.simpleName := pShort.symm.trans (same.trans qShort)
    refine ⟨names, ?_⟩
    by_cases pHome : p.package = ""
    · exact Or.inr (Or.inl ⟨pHome, qShort⟩)
    by_cases qHome : q.package = ""
    · exact Or.inr (Or.inr ⟨qHome, pShort⟩)
    left
    rcases (d.typeText_eq_simpleName_iff pHome).mp pShort with pVisible | pHeld
    · rcases (d.typeText_eq_simpleName_iff qHome).mp qShort with qVisible | qHeld
      · exact ⟨pVisible, qVisible⟩
      · exact ⟨pVisible, isImplicit_of_holder? pInside pVisible (names ▸ qHeld)⟩
    · rcases (d.typeText_eq_simpleName_iff qHome).mp qShort with qVisible | qHeld
      · exact ⟨isImplicit_of_holder? qInside qVisible (names ▸ pHeld), qVisible⟩
      · rw [← names, pHeld, Option.some.injEq] at qHeld
        exact absurd qHeld different
  · rintro ⟨names, ⟨pVisible, qVisible⟩ | ⟨pHome, qShort⟩ | ⟨qHome, pShort⟩⟩
    · rw [d.typeText_of_isImplicit pVisible, d.typeText_of_isImplicit qVisible, names]
    · rw [d.typeText_of_package_eq_empty pHome, qShort, names]
    · rw [d.typeText_of_package_eq_empty qHome, pShort, names]

theorem typeText_eq_companionName_iff (valid : d.validate = .ok ()) :
    d.typeText p = d.companionName ↔
      p.simpleName = d.companionName ∧
        (p.isImplicit = true ∨ p.package = "" ∨
          (p.canonicalName = qualify d.package d.companionName ∧
            ∀ ref ∈ d.types, ref.isImplicit = true → ref.simpleName ≠ d.companionName)) := by
  constructor
  · intro same
    have short : d.typeText p = p.simpleName := by
      apply typeText_eq_simpleName_of_dot_not_mem
      rw [same]
      exact dot_not_mem_companionName valid
    have unit : p.simpleName = d.companionName := short.symm.trans same
    refine ⟨unit, ?_⟩
    by_cases home : p.package = ""
    · exact Or.inr (Or.inl home)
    rcases (d.typeText_eq_simpleName_iff home).mp short with visible | held
    · exact Or.inl visible
    · rcases holder?_eq_some_canonicalName_iff.mp held with last | ⟨free, _, own⟩ | ⟨_, other, _⟩
      · exact Or.inl (History.of_lastImplicit?_eq_some last).2.1
      · rw [History.lastImplicit?_eq_none_iff, unit] at free
        exact Or.inr (Or.inr ⟨own, free⟩)
      · exact absurd unit other
  · rintro ⟨unit, visible | home | ⟨own, missing⟩⟩
    · rw [d.typeText_of_isImplicit visible, unit]
    · rw [d.typeText_of_package_eq_empty home, unit]
    · have found : History.lastImplicit? d.types p.simpleName = none := by
        rw [History.lastImplicit?_eq_none_iff, unit]
        exact missing
      rw [typeText_eq, holder?_of_own found unit, own, if_pos (Or.inr rfl), unit]

end Descriptor

namespace EntityClass

variable {d : Descriptor} {c : EntityClass}

/-- Among the types written by simple name, only implicit ones can be missing from the imports. -/
theorem mem_imports_of_short (resolved : (ofDescriptor d).run.value = .ok c)
    (valid : d.validate = .ok ()) {ref : TypeRef} (inside : ref ∈ d.types)
    (short : d.typeText ref = ref.simpleName) (named : ref.package ≠ "")
    (shown : ref.package ≠ implicitPackage) (away : ref.package ≠ d.package) :
    ref.canonicalName ∈ c.imports ↔
      (ref.isImplicit = true → History.lastImplicit? d.types ref.simpleName = some ref) := by
  rw [canonicalName_mem_imports_iff resolved valid named shown away]
  constructor
  · intro held visible
    exact Descriptor.lastImplicit?_of_holder? inside visible held
  · intro last
    rcases (d.typeText_eq_simpleName_iff named).mp short with visible | held
    · exact Descriptor.holder?_of_implicit (last visible)
    · exact held

/-- Which texts of a rendered source are ambiguous. The source is spelled out, so that the imports
are the ones that stand on its import lines. -/
theorem ambiguity_of_generate {settings : Settings} {source : String}
    (generated : ((Template.entity settings).generate d).run.value = .ok source)
    (rendered : source ≠ "") :
    ∃ c, (ofDescriptor d).run.value = .ok c ∧ source = c.source settings ∧
      source = String.ofList (headerText settings.header ++ packageText d.package ++
        c.imports.flatMap (fun name => ("import " ++ name ++ ";\n").toList) ++
        (if c.imports = [] then [] else ['\n']) ++ c.classText settings) ∧
      c.fields.length = d.properties.length ∧
      (∀ p f q g, (p, f) ∈ d.properties.zip c.fields → (q, g) ∈ d.properties.zip c.fields →
        p.type.canonicalName ≠ q.type.canonicalName →
        (f.typeName = g.typeName ↔
          p.type.simpleName = q.type.simpleName ∧
            ((p.type.isImplicit = true ∧ q.type.isImplicit = true) ∨
              (p.type.package = "" ∧ g.typeName = q.type.simpleName) ∨
              (q.type.package = "" ∧ f.typeName = p.type.simpleName)))) ∧
      (∀ p f, (p, f) ∈ d.properties.zip c.fields →
        (f.typeName = d.companionName ↔
          p.type.simpleName = d.companionName ∧
            (p.type.isImplicit = true ∨ p.type.package = "" ∨
              (p.type.canonicalName = qualify d.package d.companionName ∧
                ∀ q ∈ d.properties, q.type.isImplicit = true →
                  q.type.simpleName ≠ d.companionName)))) ∧
      (∀ p f, (p, f) ∈ d.properties.zip c.fields → f.typeName = p.type.simpleName →
        p.type.package ≠ "" → p.type.package ≠ implicitPackage → p.type.package ≠ d.package →
        (p.type.canonicalName ∈ c.imports ↔
          (p.type.isImplicit = true →
            History.lastImplicit? d.types p.type.simpleName = some p.type))) := by
  obtain ⟨_, valid, c, resolved, written⟩ := Template.rendered_iff.mp ⟨generated, rendered⟩
  have fields := mem_zip_fields_iff resolved valid
  have typed {p : Property} (inside : p ∈ d.properties) : p.type ∈ d.types :=
    List.mem_map_of_mem inside
  refine ⟨c, resolved, written,
    written.trans (source_eq_text_of_ofDescriptor settings resolved), ?_, ?_, ?_, ?_⟩
  · rw [fields_of_ofDescriptor resolved valid, List.length_map]
  · intro p f q g pField qField different
    obtain ⟨pInside, rfl⟩ := (fields p f).mp pField
    obtain ⟨qInside, rfl⟩ := (fields q g).mp qField
    exact Descriptor.typeText_eq_typeText_iff (typed pInside) (typed qInside) different
  · intro p f pField
    obtain ⟨_, rfl⟩ := (fields p f).mp pField
    refine (Descriptor.typeText_eq_companionName_iff valid).trans ?_
    simp only [Descriptor.types, List.forall_mem_map]
  · intro p f pField short named shown away
    obtain ⟨inside, rfl⟩ := (fields p f).mp pField
    exact mem_imports_of_short resolved valid (typed inside) short named shown away

def namesakes : Descriptor where
  name := "Foo"
  qualifiedName := "org.example.Foo"
  capabilities := [Capability.augmentable]
  properties := [
    { name := "first", type := ⟨"java.lang.ref.FooEntity", by decide⟩ },
    { name := "second", type := ⟨"java.lang.reflect.FooEntity", by decide⟩ }]

def namesakesClass : EntityClass where
  package := "org.example"
  name := "FooEntity"
  imports := ["java.lang.reflect.FooEntity"]
  description := none
  fields := [
    { name := "first", accessor := "First", typeName := "FooEntity", description := none },
    { name := "second", accessor := "Second", typeName := "FooEntity", description := none }]

theorem ofDescriptor_namesakes : (ofDescriptor namesakes).run.value = .ok namesakesClass := by
  rfl

theorem rendered_namesakes (settings : Settings) :
    ((Template.entity settings).generate namesakes).run.value =
        .ok (namesakesClass.source settings) ∧
      namesakesClass.source settings ≠ "" :=
  Template.rendered_iff.mpr
    ⟨rfl, by rfl, namesakesClass, ofDescriptor_namesakes, rfl⟩

/-- Unrelated types can be written alike, like the unit, and without an import that names them. -/
theorem names_can_clash :
    ∃ source c p f q g,
      ((Template.entity {}).generate namesakes).run.value = .ok source ∧ source ≠ "" ∧
      (ofDescriptor namesakes).run.value = .ok c ∧ source = c.source {} ∧
      source = String.ofList (headerText none ++ packageText namesakes.package ++
        c.imports.flatMap (fun name => ("import " ++ name ++ ";\n").toList) ++
        (if c.imports = [] then [] else ['\n']) ++ c.classText {}) ∧
      (p, f) ∈ namesakes.properties.zip c.fields ∧ (q, g) ∈ namesakes.properties.zip c.fields ∧
      (p.type.canonicalName ≠ q.type.canonicalName ∧ f.typeName = g.typeName) ∧
      (f.typeName = namesakes.companionName ∧
        p.type.canonicalName ≠ qualify namesakes.package namesakes.companionName) ∧
      (f.typeName = p.type.simpleName ∧ p.type.package ≠ "" ∧
        p.type.package ≠ implicitPackage ∧ p.type.package ≠ namesakes.package ∧
        p.type.canonicalName ∉ c.imports) := by
  obtain ⟨generated, rendered⟩ := rendered_namesakes {}
  refine ⟨_, namesakesClass, namesakes.properties[0], namesakesClass.fields[0],
    namesakes.properties[1], namesakesClass.fields[1], generated, rendered,
    ofDescriptor_namesakes, rfl, source_eq_text_of_ofDescriptor {} ofDescriptor_namesakes, ?_, ?_,
    ?_, ?_, ?_⟩
  all_goals decide +kernel

/-- For these two types, the conditions say what the text shows. -/
theorem ambiguity_of_namesakes :
    ∃ source c p f q g, ((Template.entity {}).generate namesakes).run.value = .ok source ∧
      source ≠ "" ∧ (ofDescriptor namesakes).run.value = .ok c ∧
      source = String.ofList ("package org.example;\n\n".toList ++
        "import java.lang.reflect.FooEntity;\n\n".toList ++ c.classText {}) ∧
      (p, f) ∈ namesakes.properties.zip c.fields ∧ (q, g) ∈ namesakes.properties.zip c.fields ∧
      p.type.canonicalName ≠ q.type.canonicalName ∧ f.typeName = g.typeName ∧
      f.typeName = namesakes.companionName ∧
      p.type.canonicalName ∉ c.imports ∧ q.type.canonicalName ∈ c.imports := by
  obtain ⟨generated, rendered⟩ := rendered_namesakes {}
  obtain ⟨c, resolved, _, written, _, shared, unit, imported⟩ :=
    ambiguity_of_generate generated rendered
  obtain rfl : namesakesClass = c := Except.ok.inj (ofDescriptor_namesakes.symm.trans resolved)
  have first : (namesakes.properties[0], namesakesClass.fields[0]) ∈
      namesakes.properties.zip namesakesClass.fields := by decide
  have second : (namesakes.properties[1], namesakesClass.fields[1]) ∈
      namesakes.properties.zip namesakesClass.fields := by decide
  refine ⟨_, _, _, _, _, _, generated, rendered, resolved, written.trans ?_, first, second,
    by decide, ?_, ?_, fun listed => ?_, ?_⟩
  · refine congrArg String.ofList (congrArg (· ++ namesakesClass.classText {}) ?_)
    decide
  · exact (shared _ _ _ _ first second (by decide)).mpr
      ⟨by decide, Or.inl ⟨by decide, by decide⟩⟩
  · exact (unit _ _ first).mpr ⟨by decide, Or.inl (by decide)⟩
  · have last := (imported _ _ first (by decide) (by decide) (by decide) (by decide)).mp listed
    revert last
    decide
  · apply (imported _ _ second (by decide) (by decide) (by decide) (by decide)).mpr
    decide

end EntityClass

end Companion
