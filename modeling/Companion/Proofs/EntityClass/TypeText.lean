import Companion.Proofs.EntityClass.Resolution
import Companion.Proofs.EntityClass.Written
import Companion.Proofs.Generation.Rendered

/-!
# The texts of types

The text by which a type is written in a companion, and the type that a simple name stands for in
it, depend on the list of properties as a whole and not on a scope that changes from one property
to the next. Two different types share a text only where an implicit type or a type of the default
package takes part.
-/

namespace Companion

namespace Descriptor

/-- The canonical name that a simple name stands for in the companion. -/
def holder? (d : Descriptor) (simpleName : String) : Option String :=
  match History.lastImplicit? d.types simpleName with
  | some ref => some ref.canonicalName
  | none =>
      if simpleName = d.companionName then some (qualify d.package d.companionName)
      else (History.first? d.types simpleName).map TypeRef.canonicalName

def typeText (d : Descriptor) (target : TypeRef) : String :=
  if target.isImplicit then
    target.simpleName
  else if ∃ ref ∈ d.types, ref.isImplicit = true ∧ ref.simpleName = target.simpleName then
    target.canonicalName
  else if target.simpleName = d.companionName then
    if target.canonicalName = qualify d.package d.companionName then target.simpleName
    else target.canonicalName
  else if (History.first? d.types target.simpleName).map TypeRef.canonicalName =
      some target.canonicalName then
    target.simpleName
  else
    target.canonicalName

section Holder

variable {d : Descriptor} {simpleName : String}

theorem holder?_of_implicit {last : TypeRef}
    (found : History.lastImplicit? d.types simpleName = some last) :
    d.holder? simpleName = some last.canonicalName := by
  rw [holder?, found]

theorem holder?_of_own (missing : History.lastImplicit? d.types simpleName = none)
    (same : simpleName = d.companionName) :
    d.holder? simpleName = some (qualify d.package d.companionName) := by
  rw [holder?, missing]
  exact if_pos same

theorem holder?_of_first (missing : History.lastImplicit? d.types simpleName = none)
    (other : simpleName ≠ d.companionName) :
    d.holder? simpleName =
      (History.first? d.types simpleName).map TypeRef.canonicalName := by
  rw [holder?, missing]
  exact if_neg other

/-- The three ways in which a type can hold a simple name. -/
theorem holder?_eq_some_canonicalName_iff {ref : TypeRef} :
    d.holder? simpleName = some ref.canonicalName ↔
      History.lastImplicit? d.types simpleName = some ref ∨
        (History.lastImplicit? d.types simpleName = none ∧ simpleName = d.companionName ∧
          ref.canonicalName = qualify d.package d.companionName) ∨
        (History.lastImplicit? d.types simpleName = none ∧ simpleName ≠ d.companionName ∧
          History.first? d.types simpleName = some ref) := by
  cases found : History.lastImplicit? d.types simpleName with
  | some last =>
      rw [holder?_of_implicit found]
      simp
  | none =>
      by_cases unit : simpleName = d.companionName
      · rw [holder?_of_own found unit]
        simp [unit, eq_comm]
      · rw [holder?_of_first found unit]
        simp [unit]

end Holder

theorem simpleName_of_holder? {d : Descriptor} (valid : d.validate = .ok ()) {simpleName : String}
    {ref : TypeRef} (held : d.holder? simpleName = some ref.canonicalName) :
    ref.simpleName = simpleName := by
  rcases holder?_eq_some_canonicalName_iff.mp held with last | ⟨_, unit, own⟩ | ⟨_, _, first⟩
  · exact (History.of_lastImplicit?_eq_some last).2.2
  · have parts := TypeRef.parts_of_eq_qualify own (dot_not_mem_companionName valid)
    exact parts.2.trans unit.symm
  · exact (History.of_first?_eq_some first).2

/-- Where some property has an implicit type, only the last one holds its simple name. -/
theorem lastImplicit?_of_holder? {d : Descriptor} {visible ref : TypeRef}
    (inside : visible ∈ d.types) (implicit : visible.isImplicit = true)
    (held : d.holder? visible.simpleName = some ref.canonicalName) :
    History.lastImplicit? d.types visible.simpleName = some ref := by
  have present := History.lastImplicit?_ne_none inside implicit
  rcases holder?_eq_some_canonicalName_iff.mp held with last | ⟨missing, _⟩ | ⟨missing, _⟩
  · exact last
  · exact absurd missing present
  · exact absurd missing present

theorem isImplicit_of_holder? {d : Descriptor} {visible ref : TypeRef}
    (inside : visible ∈ d.types) (implicit : visible.isImplicit = true)
    (held : d.holder? visible.simpleName = some ref.canonicalName) :
    ref.isImplicit = true :=
  (History.of_lastImplicit?_eq_some (lastImplicit?_of_holder? inside implicit held)).2.1

/-- A type is written by its simple name if it is implicit or the name stands for it. -/
theorem typeText_eq (d : Descriptor) (target : TypeRef) :
    d.typeText target =
      if target.isImplicit ∨ d.holder? target.simpleName = some target.canonicalName then
        target.simpleName
      else
        target.canonicalName := by
  by_cases implicit : target.isImplicit = true
  · rw [typeText, if_pos implicit, if_pos (Or.inl implicit)]
  · cases found : History.lastImplicit? d.types target.simpleName with
    | some last =>
        obtain ⟨inside, visible, same⟩ := History.of_lastImplicit?_eq_some found
        have different := TypeRef.canonicalName_ne_of_isImplicit visible implicit
        rw [typeText, if_neg implicit, if_pos ⟨last, inside, visible, same⟩,
          holder?_of_implicit found, if_neg]
        rintro (yes | equal)
        · exact implicit yes
        · exact different (Option.some.inj equal)
    | none =>
        have free : ¬ ∃ ref ∈ d.types,
            ref.isImplicit = true ∧ ref.simpleName = target.simpleName := by
          rintro ⟨ref, inside, visible, same⟩
          exact (History.lastImplicit?_eq_none_iff _ _).mp found ref inside visible same
        rw [typeText, if_neg implicit, if_neg free]
        by_cases own : target.simpleName = d.companionName
        · rw [if_pos own, holder?_of_own found own]
          simp only [implicit, Bool.false_eq_true, false_or, Option.some.injEq, eq_comm]
        · rw [if_neg own, holder?_of_first found own]
          simp only [implicit, Bool.false_eq_true, false_or]

theorem typeText_of_isImplicit (d : Descriptor) {target : TypeRef}
    (implicit : target.isImplicit = true) : d.typeText target = target.simpleName := by
  rw [typeText_eq, if_pos (Or.inl implicit)]

theorem typeText_of_package_eq_empty (d : Descriptor) {target : TypeRef}
    (home : target.package = "") : d.typeText target = target.simpleName := by
  rw [typeText_eq, (TypeRef.canonicalName_eq_simpleName_iff target).mpr home, ite_self]

/-- Outside the default package, only implicit types and holders are written by simple name. -/
theorem typeText_eq_simpleName_iff (d : Descriptor) {target : TypeRef}
    (away : target.package ≠ "") :
    d.typeText target = target.simpleName ↔
      target.isImplicit = true ∨ d.holder? target.simpleName = some target.canonicalName := by
  rw [typeText_eq]
  split
  · next short => exact ⟨fun _ => short, fun _ => rfl⟩
  · next long =>
      have away : target.canonicalName ≠ target.simpleName := fun same =>
        away ((TypeRef.canonicalName_eq_simpleName_iff target).mp same)
      exact ⟨fun same => absurd same away, fun short => absurd short long⟩

end Descriptor

namespace History

variable {d : Descriptor} {own : TypeRef}

theorem first?_take {types : List TypeRef} {index : Nat} {target : TypeRef}
    (asked : types[index]? = some target) :
    first? (types.take (index + 1)) target.simpleName = first? types target.simpleName := by
  have inside : target ∈ types.take (index + 1) :=
    List.mem_of_getElem? ((List.getElem?_take_of_succ).trans asked)
  have present : first? (types.take (index + 1)) target.simpleName ≠ none := fun missing =>
    (first?_eq_none_iff _ _).mp missing target inside rfl
  obtain ⟨first, found⟩ := Option.ne_none_iff_exists'.mp present
  have cut := first?_append (types.take (index + 1)) (types.drop (index + 1)) target.simpleName
  rw [List.take_append_drop, found] at cut
  rw [found, cut]
  rfl

/-- After all mentions, every simple name stands for what the descriptor says. -/
theorem holder?_ofClass_types (named : own.canonicalName = qualify d.package d.companionName)
    (unit : own.simpleName = d.companionName) (simpleName : String) :
    holder? (ofClass own d.types d.types) simpleName = d.holder? simpleName := by
  cases found : lastImplicit? d.types simpleName with
  | some last => rw [holder?_ofClass_of_last found, Descriptor.holder?_of_implicit found]
  | none =>
      by_cases same : simpleName = d.companionName
      · rw [Descriptor.holder?_of_own found same, ← named]
        exact holder?_ofClass_of_own (List.Subset.refl _) found (unit.trans same.symm)
      · rw [Descriptor.holder?_of_first found same]
        exact holder?_ofClass_of_first (List.Subset.refl _) found
          fun equal => same (equal.symm.trans unit)

/-- At its turn, every type is written as the descriptor says. -/
theorem spelling_ofClass (named : own.canonicalName = qualify d.package d.companionName)
    (unit : own.simpleName = d.companionName) {index : Nat} {target : TypeRef}
    (asked : d.types[index]? = some target) :
    spelling (ofClass own d.types (d.types.take (index + 1))) target = d.typeText target := by
  rw [Descriptor.typeText_eq, spelling]
  congr 1
  apply propext
  apply or_congr_right'
  intro ordinary
  have within : d.types.take (index + 1) ⊆ d.types := List.take_subset _ _
  cases found : lastImplicit? d.types target.simpleName with
  | some last =>
      have visible := (of_lastImplicit?_eq_some found).2.1
      obtain ⟨ref, shown, held⟩ :=
        holder?_ofClass_of_implicit own (d.types.take (index + 1)) found
      have different := TypeRef.canonicalName_ne_of_isImplicit visible ordinary
      have differs := TypeRef.canonicalName_ne_of_isImplicit shown ordinary
      rw [held, Descriptor.holder?_of_implicit found, Option.some.injEq, Option.some.injEq]
      exact ⟨fun equal => absurd equal differs, fun equal => absurd equal different⟩
  | none =>
      by_cases same : target.simpleName = d.companionName
      · rw [holder?_ofClass_of_own within found (unit.trans same.symm),
          Descriptor.holder?_of_own found same, named]
      · rw [holder?_ofClass_of_first within found fun equal => same (equal.symm.trans unit),
          first?_take asked, Descriptor.holder?_of_first found same]

end History

namespace EntityClass

section Resolved

variable {d : Descriptor} {c : EntityClass}

/-- The fields of a resolved class are the properties, each with the text of its type. -/
theorem fields_of_ofDescriptor (resolved : (ofDescriptor d).run.value = .ok c)
    (valid : d.validate = .ok ()) :
    c.fields = d.properties.map fun property =>
      Field.ofProperty property (d.typeText property.type) := by
  obtain ⟨own, scope, named, _, rfl⟩ := history_of_ofDescriptor resolved
  have unit := (TypeRef.parts_of_eq_qualify named (Descriptor.dot_not_mem_companionName valid)).2
  apply List.ext_getElem?
  intro index
  rw [List.getElem?_mapIdx, List.getElem?_map]
  cases asked : d.properties[index]? with
  | none => rfl
  | some property =>
      have turn : d.types[index]? = some property.type := by
        rw [Descriptor.types, List.getElem?_map, asked]
        rfl
      rw [Option.map_some, Option.map_some, History.spelling_ofClass named unit turn]

/-- The imports of a resolved class are the holders that the unit cannot see otherwise. -/
theorem mem_imports_of_ofDescriptor (resolved : (ofDescriptor d).run.value = .ok c)
    (valid : d.validate = .ok ()) (name : String) :
    name ∈ c.imports ↔
      (∃ simpleName, d.holder? simpleName = some name) ∧ needsImport d.package name = true := by
  obtain ⟨own, scope, named, remembers, rfl⟩ := history_of_ofDescriptor resolved
  have unit := (TypeRef.parts_of_eq_qualify named (Descriptor.dot_not_mem_companionName valid)).2
  have held (simpleName : String) : scope.holder? simpleName = d.holder? simpleName :=
    (remembers.holder simpleName).trans (History.holder?_ofClass_types named unit simpleName)
  rw [List.mem_filter, Scope.mem_imports_iff]
  simp only [held]

theorem imports_ascending_of_ofDescriptor (resolved : (ofDescriptor d).run.value = .ok c) :
    c.imports.Pairwise (· < ·) := by
  obtain ⟨own, scope, _, _, rfl⟩ := history_of_ofDescriptor resolved
  exact scope.imports_ascending.filter _

theorem mem_zip_fields_iff (resolved : (ofDescriptor d).run.value = .ok c)
    (valid : d.validate = .ok ()) (property : Property) (field : Field) :
    (property, field) ∈ d.properties.zip c.fields ↔
      property ∈ d.properties ∧ field = Field.ofProperty property (d.typeText property.type) := by
  have pairs : d.properties.zip c.fields = d.properties.map fun property =>
      (property, Field.ofProperty property (d.typeText property.type)) := by
    rw [fields_of_ofDescriptor resolved valid]
    simpa only [List.map_id, id] using List.zip_map' (l := d.properties) (f := id)
  rw [pairs, List.mem_map]
  constructor
  · rintro ⟨_, inside, same⟩
    cases same
    exact ⟨inside, rfl⟩
  · rintro ⟨inside, rfl⟩
    exact ⟨property, inside, rfl⟩

end Resolved

/-- Each type has one text in a rendered source, whatever the settings: the one that the list of
properties gives it. Its field, its getter and its setter are written with that text. -/
theorem text_of_generate {settings : Settings} {d : Descriptor} {source : String}
    (generated : ((Template.entity settings).generate d).run.value = .ok source)
    (rendered : source ≠ "") :
    ∃ imports : List String, source = String.ofList (
      headerText settings.header ++ packageText d.package ++
      imports.flatMap (fun name => ("import " ++ name ++ ";\n").toList) ++
      (if imports = [] then [] else ['\n']) ++
      commentText settings 0 d.description ++
      ("public class " ++ d.companionName ++ " \x7b").toList ++ ['\n'] ++
      (if d.properties = [] then [] else ['\n']) ++
      d.properties.flatMap (fun property =>
        List.replicate settings.indentSize ' ' ++
          ("private " ++ d.typeText property.type ++ " " ++ Text.uncapitalized property.name ++
            ";").toList ++ ['\n']) ++
      (if settings.generateAccessors then
        d.properties.flatMap fun property =>
          ['\n'] ++ commentText settings settings.indentSize property.description ++
          List.replicate settings.indentSize ' ' ++
            ("public " ++ d.typeText property.type ++ " get" ++ Text.capitalized property.name ++
              "() \x7b").toList ++ ['\n'] ++
          List.replicate (2 * settings.indentSize) ' ' ++
            ("return " ++ Text.uncapitalized property.name ++ ";").toList ++ ['\n'] ++
          List.replicate settings.indentSize ' ' ++ "\x7d".toList ++ ['\n'] ++
          ['\n'] ++
          List.replicate settings.indentSize ' ' ++
            ("public void set" ++ Text.capitalized property.name ++ "(" ++
              d.typeText property.type ++ " " ++ Text.uncapitalized property.name ++
              ") \x7b").toList ++ ['\n'] ++
          List.replicate (2 * settings.indentSize) ' ' ++
            ("this." ++ Text.uncapitalized property.name ++ " = " ++
              Text.uncapitalized property.name ++ ";").toList ++ ['\n'] ++
          List.replicate settings.indentSize ' ' ++ "\x7d".toList ++ ['\n']
      else []) ++
      "\x7d".toList ++ ['\n']) := by
  obtain ⟨_, valid, c, resolved, rfl⟩ := Template.rendered_iff.mp ⟨generated, rendered⟩
  obtain ⟨package, name, description⟩ := parts_of_ofDescriptor resolved
  refine ⟨c.imports, ?_⟩
  rw [source_eq_text, text, classText, fields_of_ofDescriptor resolved valid, package, name, description,
    List.flatMap_map, List.flatMap_map]
  simp only [Field.ofProperty, Field.text, Field.accessorText, line, List.map_eq_nil_iff,
    List.replicate_zero, List.nil_append, List.append_assoc]

def rivals : Descriptor where
  name := "Route"
  qualifiedName := "org.example.Route"
  capabilities := [Capability.augmentation]
  properties := [
    { name := "label", type := ⟨"com.example.String", by decide⟩ },
    { name := "name", type := ⟨"java.lang.String", by decide⟩ },
    { name := "attributes", type := ⟨"java.util.Map", by decide⟩ },
    { name := "table", type := ⟨"com.example.Map", by decide⟩ },
    { name := "other", type := ⟨"org.other.RouteEntity", by decide⟩ },
    { name := "self", type := ⟨"org.example.RouteEntity", by decide⟩ }]

theorem rivals_rendered (settings : Settings) :
    ∃ source, ((Template.entity settings).generate rivals).run.value = .ok source ∧ source ≠ "" :=
  Template.exists_rendered_of_isOk settings rfl (by rfl) (by rfl)

theorem text_of_rivals :
    ∃ source, ((Template.entity { generateAccessors := false }).generate rivals).run.value =
        .ok source ∧ source ≠ "" ∧
      ∃ imports : List String, source = String.ofList ("package org.example;\n\n".toList ++
        (imports.flatMap (fun name => ("import " ++ name ++ ";\n").toList) ++
          (if imports = [] then [] else ['\n']) ++
        ("public class RouteEntity \x7b\n\n" ++
          "    private com.example.String label;\n" ++
          "    private String name;\n" ++
          "    private Map attributes;\n" ++
          "    private com.example.Map table;\n" ++
          "    private org.other.RouteEntity other;\n" ++
          "    private RouteEntity self;\n" ++
          "\x7d\n").toList)) := by
  obtain ⟨source, generated, rendered⟩ := rivals_rendered { generateAccessors := false }
  obtain ⟨imports, written⟩ := text_of_generate generated rendered
  refine ⟨source, generated, rendered, imports, written.trans (congrArg String.ofList ?_)⟩
  simp only [List.append_assoc]
  rw [← List.append_assoc]
  refine congrArg₂ _ (by decide +kernel) (congrArg _ (congrArg _ ?_))
  simp only [String.toList_append]
  decide +kernel

end EntityClass

end Companion
