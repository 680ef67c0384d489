import Companion.Proofs.EntityClass.SharedText

/-!
# Which type a bare name means

A bare name means the type that an import line names, or else a type of the unit's own package, or
else a type of the implicit package. A type of the implicit package is always written by its bare
name and never imported. So the name means another type wherever some property has a type of the
unit's own package with that simple name, or where the last implicit type with it is another one; and
it means the type itself everywhere else.
-/

namespace Companion

namespace EntityClass

/-- The type that a bare name means in a unit, out of the given types. -/
inductive Means (c : EntityClass) (types : List TypeRef) (name : String) : TypeRef → Prop where
  | imported {ref : TypeRef} (inside : ref ∈ types) (named : ref.simpleName = name)
      (listed : ref.canonicalName ∈ c.imports) : Means c types name ref
  | sibling {ref : TypeRef} (inside : ref ∈ types) (named : ref.simpleName = name)
      (uncovered : ∀ other ∈ types, other.simpleName = name → other.canonicalName ∉ c.imports)
      (home : ref.package = c.package) : Means c types name ref
  | implicit {ref : TypeRef} (inside : ref ∈ types) (named : ref.simpleName = name)
      (uncovered : ∀ other ∈ types, other.simpleName = name → other.canonicalName ∉ c.imports)
      (unrivalled : ∀ other ∈ types, other.simpleName = name → other.package ≠ c.package)
      (home : ref.package = implicitPackage) : Means c types name ref

variable {d : Descriptor} {c : EntityClass}

theorem not_mem_imports_of_implicitPackage (resolved : (ofDescriptor d).run.value = .ok c)
    (valid : d.validate = .ok ()) {ref : TypeRef} (home : ref.package = implicitPackage) :
    ref.canonicalName ∉ c.imports := by
  intro listed
  obtain ⟨other, _, same, _, _, shown, _⟩ :=
    (mem_imports_iff_exists_holder resolved valid _).mp listed
  cases TypeRef.eq_of_canonicalName_eq same
  exact shown home

/-- Where some property has an implicit type, an import line with its simple name can only be for
the last implicit type with that name, and there is one unless the unit sees that type anyway. -/
theorem mem_imports_iff_of_isImplicit (resolved : (ofDescriptor d).run.value = .ok c)
    (valid : d.validate = .ok ()) {visible ref : TypeRef} (inside : visible ∈ d.types)
    (implicit : visible.isImplicit = true) (named : ref.simpleName = visible.simpleName) :
    ref.canonicalName ∈ c.imports ↔
      History.lastImplicit? d.types visible.simpleName = some ref ∧
        ref.package ≠ implicitPackage ∧ ref.package ≠ d.package := by
  rw [mem_imports_iff_exists_holder resolved valid]
  constructor
  · rintro ⟨other, _, same, held, _, shown, away⟩
    cases TypeRef.eq_of_canonicalName_eq same
    rw [named] at held
    exact ⟨Descriptor.lastImplicit?_of_holder? inside implicit held, shown, away⟩
  · rintro ⟨last, shown, away⟩
    obtain ⟨typed, visible, _⟩ := History.of_lastImplicit?_eq_some last
    rw [← named] at last
    exact ⟨ref, typed, rfl, Descriptor.holder?_of_implicit last,
      TypeRef.package_ne_empty_of_isImplicit visible, shown, away⟩

/-- When the bare name of a type of the implicit package means that type. -/
theorem means_of_implicitPackage_iff (resolved : (ofDescriptor d).run.value = .ok c)
    (valid : d.validate = .ok ()) (away : d.package ≠ implicitPackage) {ref : TypeRef}
    (inside : ref ∈ d.types) (home : ref.package = implicitPackage) :
    c.Means d.types ref.simpleName ref ↔
      (∀ other ∈ d.types, other.package = d.package → other.simpleName ≠ ref.simpleName) ∧
        History.lastImplicit? d.types ref.simpleName = some ref := by
  have implicit := TypeRef.isImplicit_of_package home
  have unit : c.package = d.package := (parts_of_ofDescriptor resolved).1
  constructor
  · intro means
    cases means with
    | imported _ _ listed =>
        exact absurd listed (not_mem_imports_of_implicitPackage resolved valid home)
    | sibling _ _ _ own => exact absurd (unit.symm.trans (own.symm.trans home)) away
    | implicit _ _ uncovered unrivalled _ =>
        rw [unit] at unrivalled
        refine ⟨fun other typed own names => unrivalled other typed names own, ?_⟩
        obtain ⟨last, found⟩ :=
          Option.ne_none_iff_exists'.mp (History.lastImplicit?_ne_none inside implicit)
        obtain ⟨typed, _, names⟩ := History.of_lastImplicit?_eq_some found
        -- A last implicit type elsewhere would be covered by an import line.
        have shown : last.package = implicitPackage := by
          refine Decidable.not_not.mp fun elsewhere => uncovered last typed names ?_
          exact (mem_imports_iff_of_isImplicit resolved valid inside implicit names).mpr
            ⟨found, elsewhere, unrivalled last typed names⟩
        rw [found, TypeRef.eq_of_parts_eq (shown.trans home.symm) names]
  · rintro ⟨unrivalled, last⟩
    refine .implicit inside rfl ?_ ?_ home
    · intro other _ names listed
      obtain ⟨found, elsewhere, _⟩ :=
        (mem_imports_iff_of_isImplicit resolved valid inside implicit names).mp listed
      rw [last] at found
      cases found
      exact elsewhere home
    · rw [unit]
      exact fun other typed names own => unrivalled other typed own names

/-- Next to an implicit type, a type with the same simple name is spelled out unless it is implicit
itself. -/
theorem typeText_of_namesake {visible ref : TypeRef} (inside : visible ∈ d.types)
    (implicit : visible.isImplicit = true) (names : ref.simpleName = visible.simpleName) :
    d.typeText ref = if ref.isImplicit then ref.simpleName else ref.canonicalName := by
  unfold Descriptor.typeText
  split
  · rfl
  · rw [if_pos ⟨visible, inside, implicit, names.symm⟩]

/-- When a property of a rendered source whose type lies in the implicit package is written by a name
that means its type. The name is always the bare one, no import line helps it, and a type of the
unit's own package that takes the name away is not written by it. -/
theorem shadowing_of_generate {settings : Settings} {source : String}
    (generated : ((Template.entity settings).generate d).run.value = .ok source)
    (rendered : source ≠ "") (away : d.package ≠ implicitPackage) :
    ∃ c, (ofDescriptor d).run.value = .ok c ∧ source = c.source settings ∧
      source = String.ofList (c.text settings) ∧
      ∀ p f, (p, f) ∈ d.properties.zip c.fields → p.type.package = implicitPackage →
        f.typeName = p.type.simpleName ∧ p.type.canonicalName ∉ c.imports ∧
        (c.Means d.types f.typeName p.type ↔
          (∀ q ∈ d.properties, q.type.package = d.package →
              q.type.simpleName ≠ p.type.simpleName) ∧
            History.lastImplicit? d.types p.type.simpleName = some p.type) ∧
        ∀ q g, (q, g) ∈ d.properties.zip c.fields → q.type.package = d.package →
          q.type.simpleName = p.type.simpleName →
            g.typeName = if q.type.isImplicit then q.type.simpleName else q.type.canonicalName := by
  obtain ⟨_, valid, c, resolved, written⟩ := Template.rendered_iff.mp ⟨generated, rendered⟩
  have fields := mem_zip_fields_iff resolved valid
  refine ⟨c, resolved, written,
    written.trans (source_eq_text settings c), ?_⟩
  intro p f pField home
  obtain ⟨pInside, rfl⟩ := (fields p f).mp pField
  have typed : p.type ∈ d.types := List.mem_map_of_mem pInside
  have implicit := TypeRef.isImplicit_of_package home
  have short : d.typeText p.type = p.type.simpleName := d.typeText_of_isImplicit implicit
  refine ⟨short, not_mem_imports_of_implicitPackage resolved valid home, ?_, ?_⟩
  · have means := means_of_implicitPackage_iff resolved valid away typed home
    simp only [Descriptor.types, List.forall_mem_map] at means ⊢
    rw [← means, ← short]
    rfl
  · intro q g qField _ names
    obtain ⟨_, rfl⟩ := (fields q g).mp qField
    exact typeText_of_namesake typed implicit names

/-- A type with a property of the implicit package that a sibling of the type shares its name with,
and one that has its name for itself. -/
def overshadowed : Descriptor where
  name := "Foo"
  qualifiedName := "org.example.Foo"
  capabilities := [Capability.augmentable]
  properties := [
    { name := "home", type := ⟨"java.lang.Module", by decide⟩ },
    { name := "part", type := ⟨"org.example.Module", by decide⟩ },
    { name := "count", type := ⟨"java.lang.Short", by decide⟩ }]

def overshadowedClass : EntityClass where
  package := "org.example"
  name := "FooEntity"
  imports := []
  description := none
  fields := [
    { name := "home", accessor := "Home", typeName := "Module", description := none },
    { name := "part", accessor := "Part", typeName := "org.example.Module", description := none },
    { name := "count", accessor := "Count", typeName := "Short", description := none }]

theorem ofDescriptor_overshadowed :
    (ofDescriptor overshadowed).run.value = .ok overshadowedClass := by
  rfl

theorem rendered_overshadowed (settings : Settings) :
    ((Template.entity settings).generate overshadowed).run.value =
        .ok (overshadowedClass.source settings) ∧
      overshadowedClass.source settings ≠ "" :=
  Template.rendered_iff.mpr
    ⟨rfl, by rfl, overshadowedClass, ofDescriptor_overshadowed, rfl⟩

/-- One of the two bare names means its type and the other one does not, while the type that it means
is spelled out. -/
theorem shadowing_of_overshadowed :
    overshadowed.package ≠ implicitPackage ∧
      ∃ source, ((Template.entity {}).generate overshadowed).run.value = .ok source ∧ source ≠ "" ∧
        overshadowedClass.Means overshadowed.types "Short" overshadowed.properties[2].type ∧
        ¬ overshadowedClass.Means overshadowed.types "Module" overshadowed.properties[0].type ∧
        overshadowedClass.fields[1].typeName = overshadowed.properties[1].type.canonicalName := by
  obtain ⟨generated, rendered⟩ := rendered_overshadowed {}
  have away : overshadowed.package ≠ implicitPackage := by decide
  obtain ⟨c, resolved, _, _, meant⟩ := shadowing_of_generate generated rendered away
  obtain rfl : overshadowedClass = c :=
    Except.ok.inj (ofDescriptor_overshadowed.symm.trans resolved)
  have member (i : Fin 3) : (overshadowed.properties[i], overshadowedClass.fields[i]) ∈
      overshadowed.properties.zip overshadowedClass.fields := by
    revert i
    decide
  obtain ⟨_, _, countMeans, _⟩ := meant _ _ (member 2) (by decide)
  obtain ⟨_, _, homeMeans, spelled⟩ := meant _ _ (member 0) (by decide)
  refine ⟨away, _, generated, rendered, countMeans.mpr (by decide), fun means => ?_, ?_⟩
  · exact (homeMeans.mp means).1 overshadowed.properties[1] (by decide) (by decide) (by decide)
  · exact spelled _ _ (member 1) (by decide) (by decide)

/-- A property whose type lies in the implicit package can be written by a bare name that a type of
the unit's own package has as well, and that means this type. -/
theorem bare_name_can_be_shadowed :
    ∃ settings source c p f q g,
      ((Template.entity settings).generate overshadowed).run.value = .ok source ∧ source ≠ "" ∧
      (ofDescriptor overshadowed).run.value = .ok c ∧ source = c.source settings ∧
      overshadowed.package ≠ implicitPackage ∧
      (p, f) ∈ overshadowed.properties.zip c.fields ∧
      (q, g) ∈ overshadowed.properties.zip c.fields ∧
      p.type.package = implicitPackage ∧ f.typeName = p.type.simpleName ∧
      q ≠ p ∧ q.type.package = overshadowed.package ∧ q.type.simpleName = p.type.simpleName ∧
      c.Means overshadowed.types f.typeName q.type := by
  obtain ⟨generated, rendered⟩ := rendered_overshadowed {}
  refine ⟨{}, _, overshadowedClass, overshadowed.properties[0], overshadowedClass.fields[0],
    overshadowed.properties[1], overshadowedClass.fields[1], generated, rendered,
    ofDescriptor_overshadowed, rfl, ?_, ?_, ?_, ?_, ?_, ?_, ?_, ?_,
    .sibling (by decide) (by decide) (fun _ _ _ => List.not_mem_nil) (by decide)⟩
  all_goals decide

end EntityClass

end Companion
