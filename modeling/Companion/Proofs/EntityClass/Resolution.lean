import Companion.EntityClass.Basic
import Companion.Proofs.Scope.History
import Companion.Proofs.Scope.Imports
import Companion.Proofs.TypeRef.Parts

/-!
# How the names of a class are resolved

To resolve a class is to run one history of mentions: the class itself, then the implicit types of
all properties, then the types of the properties one by one. What each simple name stands for at
any point of that history, and at its end, can be said without the history.
-/

namespace Companion

def Descriptor.types (d : Descriptor) : List TypeRef :=
  d.properties.map Property.type

namespace History

/-- The mentions of a class: itself, the implicit types, and the types asked for field by field. -/
def ofClass (own : TypeRef) (types asked : List TypeRef) : List TypeRef :=
  own :: types.filter TypeRef.isImplicit ++ asked

variable {own : TypeRef} {types asked : List TypeRef} {simpleName : String}

theorem lastImplicit?_filter (types : List TypeRef) (simpleName : String) :
    lastImplicit? (types.filter TypeRef.isImplicit) simpleName =
      lastImplicit? types simpleName := by
  rw [lastImplicit?, lastImplicit?, ← List.filter_reverse, List.find?_filter]
  congr 1
  funext ref
  cases ref.isImplicit <;> simp

theorem lastImplicit?_ofClass (own : TypeRef) (types asked : List TypeRef) (simpleName : String) :
    lastImplicit? (ofClass own types asked) simpleName =
      (lastImplicit? asked simpleName).or
        ((lastImplicit? types simpleName).or (lastImplicit? [own] simpleName)) := by
  have parts : ofClass own types asked = [own] ++ types.filter TypeRef.isImplicit ++ asked := rfl
  rw [parts, lastImplicit?_append, lastImplicit?_append, lastImplicit?_filter]

theorem first?_ofClass (own : TypeRef) (types asked : List TypeRef) (simpleName : String) :
    first? (ofClass own types asked) simpleName =
      (first? [own] simpleName).or
        ((first? (types.filter TypeRef.isImplicit) simpleName).or (first? asked simpleName)) := by
  have parts : ofClass own types asked = [own] ++ types.filter TypeRef.isImplicit ++ asked := rfl
  rw [parts, first?_append, first?_append, Option.or_assoc]

/-- An implicit type of some property keeps all others away from its simple name. -/
theorem holder?_ofClass_of_implicit {last : TypeRef} (own : TypeRef) (asked : List TypeRef)
    (found : lastImplicit? types simpleName = some last) :
    ∃ ref : TypeRef, ref.isImplicit = true ∧
      holder? (ofClass own types asked) simpleName = some ref.canonicalName := by
  cases later : lastImplicit? asked simpleName with
  | none =>
      refine ⟨last, (of_lastImplicit?_eq_some found).2.1, ?_⟩
      rw [holder?, lastImplicit?_ofClass, later, found]
      rfl
  | some ref =>
      refine ⟨ref, (of_lastImplicit?_eq_some later).2.1, ?_⟩
      rw [holder?, lastImplicit?_ofClass, later]
      rfl

/-- In the end, the last implicit type holds the name. -/
theorem holder?_ofClass_of_last {last : TypeRef}
    (found : lastImplicit? types simpleName = some last) :
    holder? (ofClass own types types) simpleName = some last.canonicalName := by
  rw [holder?, lastImplicit?_ofClass, found]
  rfl

theorem lastImplicit?_eq_none_of_subset (within : asked ⊆ types)
    (missing : lastImplicit? types simpleName = none) : lastImplicit? asked simpleName = none := by
  rw [lastImplicit?_eq_none_iff] at missing ⊢
  exact fun ref inside => missing ref (within inside)

theorem first?_filter_eq_none (missing : lastImplicit? types simpleName = none) :
    first? (types.filter TypeRef.isImplicit) simpleName = none := by
  rw [lastImplicit?_eq_none_iff] at missing
  rw [first?_eq_none_iff]
  intro ref inside
  obtain ⟨inside, implicit⟩ := List.mem_filter.mp inside
  exact missing ref inside implicit

/-- Without an implicit type, the class holds its own simple name. -/
theorem holder?_ofClass_of_own (within : asked ⊆ types)
    (missing : lastImplicit? types simpleName = none) (same : own.simpleName = simpleName) :
    holder? (ofClass own types asked) simpleName = some own.canonicalName := by
  rw [holder?, lastImplicit?_ofClass, first?_ofClass, missing,
    lastImplicit?_eq_none_of_subset within missing]
  cases implicit : own.isImplicit <;> simp [lastImplicit?, first?, implicit, same]

/-- Without an implicit type, any other simple name belongs to the first who asked for it. -/
theorem holder?_ofClass_of_first (within : asked ⊆ types)
    (missing : lastImplicit? types simpleName = none) (other : own.simpleName ≠ simpleName) :
    holder? (ofClass own types asked) simpleName =
      (first? asked simpleName).map TypeRef.canonicalName := by
  rw [holder?, lastImplicit?_ofClass, first?_ofClass, missing,
    lastImplicit?_eq_none_of_subset within missing, first?_filter_eq_none missing]
  simp [lastImplicit?, first?, other]

end History

namespace EntityClass

theorem value_claimImplicit (scope : Scope) (properties : List Property) :
    (claimImplicit scope properties).value =
      (scope.mentionEach ((properties.map Property.type).filter TypeRef.isImplicit)).value.2 := by
  induction properties generalizing scope with
  | nil => rfl
  | cons property rest ih =>
      cases implicit : property.type.isImplicit with
      | true => simp [claimImplicit, implicit, ih, Scope.value_mentionEach_cons, Scope.mention]
      | false => simp [claimImplicit, implicit, ih]

theorem value_declareFields_cons (owner : String) (earlier : List String) (scope : Scope)
    (property : Property) (rest : List Property) :
    (declareFields owner earlier scope (property :: rest)).run.value =
      if Text.uncapitalized property.name ∈ earlier then
        .error (.duplicateField templateName property.name owner (Text.uncapitalized property.name))
      else
        match (declareFields owner (Text.uncapitalized property.name :: earlier)
            (scope.add property.type) rest).run.value with
        | .ok (fields, last) =>
            .ok (Field.ofProperty property (scope.spelling property.type) :: fields, last)
        | .error error => .error error := by
  rw [declareFields]
  split
  · rfl
  · simp only [Rendering.value_bind, Rendering.value_lift, Scope.mention]
    cases (declareFields owner (Text.uncapitalized property.name :: earlier)
      (scope.add property.type) rest).run.value <;> rfl

/-- The fields take their type texts from the run of mentions of the properties' types. -/
theorem eq_of_declareFields_eq_ok {owner : String} {earlier : List String} {scope : Scope}
    {properties : List Property} {result : List Field × Scope}
    (declared : (declareFields owner earlier scope properties).run.value = .ok result) :
    result =
      (List.zipWith Field.ofProperty properties
          (scope.mentionEach (properties.map Property.type)).value.1,
        (scope.mentionEach (properties.map Property.type)).value.2) := by
  induction properties generalizing earlier scope result with
  | nil =>
      cases declared
      rfl
  | cons property rest ih =>
      rw [value_declareFields_cons] at declared
      split at declared
      · cases declared
      · split at declared
        · next later =>
            cases declared
            rw [List.map_cons, Scope.value_mentionEach_cons, List.zipWith_cons_cons]
            cases ih later
            rfl
        · cases declared

theorem zipWith_ofProperty (properties : List Property) (text : Nat → TypeRef → String) :
    List.zipWith Field.ofProperty properties ((properties.map Property.type).mapIdx text) =
      properties.mapIdx fun index property =>
        Field.ofProperty property (text index property.type) := by
  apply List.ext_getElem?
  intro index
  simp only [List.getElem?_zipWith, List.getElem?_mapIdx, List.getElem?_map]
  cases properties[index]? <;> rfl

/-- A resolved class is read off its history of mentions. -/
theorem history_of_ofDescriptor {d : Descriptor} {c : EntityClass}
    (resolved : (ofDescriptor d).run.value = .ok c) :
    ∃ (own : TypeRef) (scope : Scope), own.canonicalName = qualify d.package d.companionName ∧
      scope.Remembers (History.ofClass own d.types d.types) ∧
      c = {
        package := d.package
        name := d.companionName
        imports := scope.imports.filter (needsImport d.package)
        description := d.description
        fields := d.properties.mapIdx fun index property =>
          Field.ofProperty property
            (History.spelling (History.ofClass own d.types (d.types.take (index + 1)))
              property.type) } := by
  unfold ofDescriptor at resolved
  split at resolved
  · cases resolved
  · next own parsed =>
      simp only [Rendering.value_bind, Rendering.value_lift, value_claimImplicit,
        Scope.mention] at resolved
      split at resolved
      · next declared =>
          cases resolved
          cases eq_of_declareFields_eq_ok declared
          have claimed := (Scope.remembers_empty.add own).mentionEach
            (d.types.filter TypeRef.isImplicit)
          refine ⟨own, _, (TypeRef.parse_eq_ok_iff _ _).mp parsed, claimed.mentionEach d.types, ?_⟩
          rw [EntityClass.mk.injEq]
          refine ⟨rfl, rfl, rfl, rfl, ?_⟩
          calc
            _ = List.zipWith Field.ofProperty d.properties (d.types.mapIdx fun index target =>
                  History.spelling (History.ofClass own d.types (d.types.take (index + 1)))
                    target) :=
              congrArg (List.zipWith Field.ofProperty d.properties) (claimed.texts d.types)
            _ = _ := zipWith_ofProperty d.properties _
      · cases resolved

theorem parts_of_ofDescriptor {d : Descriptor} {c : EntityClass}
    (resolved : (ofDescriptor d).run.value = .ok c) :
    c.package = d.package ∧ c.name = d.companionName ∧ c.description = d.description := by
  obtain ⟨_, _, _, _, rfl⟩ := history_of_ofDescriptor resolved
  exact ⟨rfl, rfl, rfl⟩

/-- What a field says apart from its type text is read off its property. -/
theorem map_fields_of_ofDescriptor {β : Type} {read : Field → β} {value : Property → β}
    (agree : ∀ property text, read (Field.ofProperty property text) = value property)
    {d : Descriptor} {c : EntityClass} (resolved : (ofDescriptor d).run.value = .ok c) :
    c.fields.map read = d.properties.map value := by
  obtain ⟨_, _, _, _, rfl⟩ := history_of_ofDescriptor resolved
  apply List.ext_getElem?
  intro index
  simp only [List.getElem?_map, List.getElem?_mapIdx, Option.map_map]
  cases d.properties[index]? with
  | none => rfl
  | some property => exact congrArg some (agree property _)

end EntityClass

end Companion
