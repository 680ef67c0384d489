import Companion.Proofs.EntityClass.Resolution

/-!
# The names of fields

A list of properties makes fields exactly if no two of its field names are the same. Where two are,
the first property to repeat the name of an earlier one is the property that is refused, whatever
the scope says about the types.
-/

namespace Companion

def Property.fieldName (property : Property) : String :=
  Text.uncapitalized property.name

/-- The first property of a list whose field name an earlier one has already. -/
def IsFirstRepeat (properties : List Property) (property : Property) : Prop :=
  ∃ before after, properties = before ++ property :: after ∧
    (before.map Property.fieldName).Nodup ∧
    property.fieldName ∈ before.map Property.fieldName

/-- The first property whose field name is among some earlier names or repeats one of the list. -/
def firstRepeat? (earlier : List String) : List Property → Option Property
  | [] => none
  | property :: rest =>
      if property.fieldName ∈ earlier then some property
      else firstRepeat? (property.fieldName :: earlier) rest

theorem firstRepeat?_eq_none_iff (earlier : List String) (properties : List Property) :
    firstRepeat? earlier properties = none ↔
      (properties.map Property.fieldName).Nodup ∧
        ∀ property ∈ properties, property.fieldName ∉ earlier := by
  induction properties generalizing earlier with
  | nil => simp [firstRepeat?]
  | cons property rest ih =>
      by_cases taken : property.fieldName ∈ earlier
      · rw [firstRepeat?, if_pos taken]
        constructor
        · intro impossible
          cases impossible
        · rintro ⟨_, free⟩
          exact absurd taken (free property List.mem_cons_self)
      · rw [firstRepeat?, if_neg taken, ih, List.map_cons, List.nodup_cons]
        constructor
        · rintro ⟨distinct, free⟩
          refine ⟨⟨fun again => ?_, distinct⟩, ?_⟩
          · obtain ⟨other, inside, same⟩ := List.mem_map.mp again
            exact free other inside (List.mem_cons.mpr (Or.inl same))
          · intro other inside
            rcases List.mem_cons.mp inside with rfl | later
            · exact taken
            · exact fun old => free other later (List.mem_cons_of_mem _ old)
        · rintro ⟨⟨new, distinct⟩, free⟩
          refine ⟨distinct, fun other inside old => ?_⟩
          rcases List.mem_cons.mp old with same | old
          · exact new (List.mem_map.mpr ⟨other, inside, same⟩)
          · exact free other (List.mem_cons_of_mem _ inside) old

theorem firstRepeat?_eq_some_iff (earlier : List String) (properties : List Property)
    (property : Property) :
    firstRepeat? earlier properties = some property ↔
      ∃ before after, properties = before ++ property :: after ∧
        firstRepeat? earlier before = none ∧
        (property.fieldName ∈ earlier ∨ property.fieldName ∈ before.map Property.fieldName) := by
  induction properties generalizing earlier with
  | nil => simp [firstRepeat?]
  | cons head rest ih =>
      by_cases taken : head.fieldName ∈ earlier
      · rw [firstRepeat?, if_pos taken, Option.some.injEq]
        constructor
        · rintro rfl
          exact ⟨[], rest, rfl, rfl, Or.inl taken⟩
        · rintro ⟨before, after, split, clear, _⟩
          cases before with
          | nil => exact (List.cons.inj split).1
          | cons first before =>
              rw [← (List.cons.inj split).1, firstRepeat?, if_pos taken] at clear
              cases clear
      · rw [firstRepeat?, if_neg taken, ih]
        constructor
        · rintro ⟨before, after, rfl, clear, again⟩
          refine ⟨head :: before, after, rfl, ?_, ?_⟩
          · rw [firstRepeat?, if_neg taken]
            exact clear
          · rw [List.mem_cons] at again
            rw [List.map_cons, List.mem_cons]
            rcases again with (same | old) | new
            · exact Or.inr (Or.inl same)
            · exact Or.inl old
            · exact Or.inr (Or.inr new)
        · rintro ⟨before, after, split, clear, again⟩
          cases before with
          | nil =>
              rcases again with old | impossible
              · rw [(List.cons.inj split).1] at taken
                exact absurd old taken
              · cases impossible
          | cons first before =>
              obtain ⟨rfl, rfl⟩ := List.cons.inj split
              rw [firstRepeat?, if_neg taken] at clear
              refine ⟨before, after, rfl, clear, ?_⟩
              rw [List.map_cons, List.mem_cons] at again
              rw [List.mem_cons]
              rcases again with old | same | new
              · exact Or.inl (Or.inr old)
              · exact Or.inl (Or.inl same)
              · exact Or.inr new

theorem nodup_fieldNames_iff (properties : List Property) :
    firstRepeat? [] properties = none ↔ (properties.map Property.fieldName).Nodup := by
  rw [firstRepeat?_eq_none_iff]
  exact and_iff_left fun _ _ => List.not_mem_nil

theorem isFirstRepeat_iff (properties : List Property) (property : Property) :
    firstRepeat? [] properties = some property ↔ IsFirstRepeat properties property := by
  simp only [firstRepeat?_eq_some_iff, nodup_fieldNames_iff, List.not_mem_nil, false_or,
    IsFirstRepeat]

namespace EntityClass

theorem value_declareFields_of_repeat {earlier : List String} {properties : List Property}
    {property : Property} (owner : String) (scope : Scope)
    (repeated : firstRepeat? earlier properties = some property) :
    (declareFields owner earlier scope properties).run.value =
      .error (.duplicateField templateName property.name owner property.fieldName) := by
  induction properties generalizing earlier scope with
  | nil => cases repeated
  | cons head rest ih =>
      rw [value_declareFields_cons]
      unfold firstRepeat? at repeated
      split at repeated
      · next taken =>
          cases repeated
          exact if_pos taken
      · next new =>
          have later := ih (scope.add head.type) repeated
          rw [Property.fieldName] at later new
          rw [if_neg new, later]

/-- Whether the fields can be declared is decided by their names alone. -/
theorem value_declareFields_of_distinct {earlier : List String} {properties : List Property}
    (owner : String) (scope : Scope) (distinct : firstRepeat? earlier properties = none) :
    ∃ result, (declareFields owner earlier scope properties).run.value = .ok result := by
  induction properties generalizing earlier scope with
  | nil => exact ⟨_, rfl⟩
  | cons head rest ih =>
      rw [value_declareFields_cons]
      unfold firstRepeat? at distinct
      split at distinct
      · cases distinct
      · next new =>
          obtain ⟨⟨fields, last⟩, later⟩ := ih (scope.add head.type) distinct
          rw [Property.fieldName] at later new
          rw [if_neg new, later]
          exact ⟨_, rfl⟩

/-- The name of a class that is refused is refused before any property is looked at. -/
theorem value_ofDescriptor_of_refused {d : Descriptor} {refusal : TypeRef.Refusal}
    (refused : TypeRef.parse (qualify d.package d.companionName) = .error refusal) :
    (ofDescriptor d).run.value = .error (.invalidTypeRef refusal) := by
  rw [ofDescriptor, refused]
  rfl

theorem value_ofDescriptor_of_repeat {d : Descriptor} {own : TypeRef} {property : Property}
    (parsed : TypeRef.parse (qualify d.package d.companionName) = .ok own)
    (repeated : firstRepeat? [] d.properties = some property) :
    (ofDescriptor d).run.value =
      .error (.duplicateField templateName property.name d.qualifiedName property.fieldName) := by
  rw [ofDescriptor, parsed]
  simp only [Rendering.value_bind, Rendering.value_lift, value_declareFields_of_repeat _ _ repeated]

theorem value_ofDescriptor_of_distinct {d : Descriptor} {own : TypeRef}
    (parsed : TypeRef.parse (qualify d.package d.companionName) = .ok own)
    (distinct : firstRepeat? [] d.properties = none) :
    ∃ c, (ofDescriptor d).run.value = .ok c := by
  obtain ⟨_, declared⟩ := value_declareFields_of_distinct d.qualifiedName
    (claimImplicit ((∅ : Scope).add own) d.properties).value distinct
  rw [ofDescriptor, parsed]
  simp only [Rendering.value_bind, Rendering.value_lift, Scope.mention, declared]
  exact ⟨_, rfl⟩

theorem nodup_fieldNames_of_ofDescriptor {d : Descriptor} {c : EntityClass}
    (resolved : (ofDescriptor d).run.value = .ok c) :
    (d.properties.map Property.fieldName).Nodup := by
  rw [← nodup_fieldNames_iff]
  cases parsed : TypeRef.parse (qualify d.package d.companionName) with
  | error refusal =>
      rw [value_ofDescriptor_of_refused parsed] at resolved
      cases resolved
  | ok own =>
      cases repeated : firstRepeat? [] d.properties with
      | none => rfl
      | some property =>
          rw [value_ofDescriptor_of_repeat parsed repeated] at resolved
          cases resolved

end EntityClass

end Companion
