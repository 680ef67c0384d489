import Companion.Descriptor.Validation

/-!
# Which defect is reported

The checks of a descriptor are made in a fixed order, and the first one that fails is reported. For
an entry without a name the report gives its position, the smallest one in the list that it is in.
-/

namespace Companion.Descriptor

/-- The position of the first empty name in a list of names. -/
structure IsFirstUnnamed (names : List String) (position : Nat) : Prop where
  unnamed : names[position]? = some ""
  earlier : ∀ before < position, names[before]? ≠ some ""

theorem findIdx?_unnamed_eq_some_iff {names : List String} {position : Nat} :
    names.findIdx? (· = "") = some position ↔ IsFirstUnnamed names position := by
  rw [List.findIdx?_eq_some_iff_getElem]
  constructor
  · rintro ⟨inside, unnamed, earlier⟩
    refine ⟨List.getElem?_eq_some_iff.mpr ⟨inside, of_decide_eq_true unnamed⟩, ?_⟩
    intro before less found
    obtain ⟨_, empty⟩ := List.getElem?_eq_some_iff.mp found
    exact earlier before less (decide_eq_true empty)
  · rintro ⟨unnamed, earlier⟩
    obtain ⟨inside, empty⟩ := List.getElem?_eq_some_iff.mp unnamed
    refine ⟨inside, decide_eq_true empty, ?_⟩
    intro before less found
    apply earlier before less
    exact List.getElem?_eq_some_iff.mpr ⟨Nat.lt_trans less inside, of_decide_eq_true found⟩

theorem findIdx?_unnamed_eq_none_iff {names : List String} :
    names.findIdx? (· = "") = none ↔ "" ∉ names := by
  rw [List.findIdx?_eq_none_iff]
  constructor
  · intro named inside
    exact of_decide_eq_false (named "" inside) rfl
  · intro named name inside
    apply decide_eq_false
    rintro rfl
    exact named inside

/-- What is reported of a type with the given names, the names of its capabilities and those of its
properties. Each check comes after the ones that are passed in the cases above it. -/
inductive Reported (name qualifiedName : String) (capabilities properties : List String) :
    Defect → Prop where
  | emptyQualifiedName (unqualified : qualifiedName = "") :
      Reported name qualifiedName capabilities properties (.emptyQualifiedName name)
  | notIdentifier (qualified : qualifiedName ≠ "") (foreign : isIdentifierOrEmpty name = false) :
      Reported name qualifiedName capabilities properties (.notIdentifier qualifiedName name)
  | unnamedCapability {position : Nat} (qualified : qualifiedName ≠ "")
      (identifier : isIdentifierOrEmpty name = true)
      (first : IsFirstUnnamed capabilities position) :
      Reported name qualifiedName capabilities properties
        (.unnamedCapability qualifiedName position)
  | unnamedProperty {position : Nat} (qualified : qualifiedName ≠ "")
      (identifier : isIdentifierOrEmpty name = true) (named : "" ∉ capabilities)
      (first : IsFirstUnnamed properties position) :
      Reported name qualifiedName capabilities properties (.unnamedProperty qualifiedName position)

theorem validate_eq_error_iff (d : Descriptor) (defect : Defect) :
    d.validate = .error defect ↔
      Reported d.name d.qualifiedName d.capabilities (d.properties.map Property.name) defect := by
  have properties : d.properties.findIdx? (·.name = "") =
      (d.properties.map Property.name).findIdx? (· = "") := by
    rw [List.findIdx?_map]
    rfl
  rw [validate, properties]
  constructor
  · intro refused
    split at refused
    · next unqualified =>
        cases refused
        exact .emptyQualifiedName unqualified
    · next qualified =>
        split at refused
        · next foreign =>
            cases refused
            exact .notIdentifier qualified (by simpa using foreign)
        · next passed =>
            have identifier : isIdentifierOrEmpty d.name = true := by simpa using passed
            split at refused
            · next first =>
                cases refused
                exact .unnamedCapability qualified identifier
                  (findIdx?_unnamed_eq_some_iff.mp first)
            · next named =>
                split at refused
                · next first =>
                    cases refused
                    exact .unnamedProperty qualified identifier
                      (findIdx?_unnamed_eq_none_iff.mp named)
                      (findIdx?_unnamed_eq_some_iff.mp first)
                · cases refused
  · intro reported
    cases reported with
    | emptyQualifiedName unqualified => rw [if_pos unqualified]
    | notIdentifier qualified foreign => rw [if_neg qualified, foreign, if_pos (by rfl)]
    | unnamedCapability qualified identifier first =>
        rw [if_neg qualified, identifier, if_neg (by decide),
          findIdx?_unnamed_eq_some_iff.mpr first]
    | unnamedProperty qualified identifier named first =>
        rw [if_neg qualified, identifier, if_neg (by decide),
          findIdx?_unnamed_eq_none_iff.mpr named, findIdx?_unnamed_eq_some_iff.mpr first]

/-- What is reported in words. A position is written as a decimal number. -/
theorem Reported.message {name qualifiedName : String} {capabilities properties : List String}
    {defect : Defect} (reported : Reported name qualifiedName capabilities properties defect) :
    (qualifiedName = "" ∧
        defect.message = "type '" ++ name ++ "' has an empty fully-qualified name") ∨
      (qualifiedName ≠ "" ∧ isIdentifierOrEmpty name = false ∧
        defect.message = "type '" ++ qualifiedName ++ "' has a name that is not an identifier: '" ++
          name ++ "'") ∨
      (qualifiedName ≠ "" ∧ isIdentifierOrEmpty name = true ∧
        ∃ position, IsFirstUnnamed capabilities position ∧
          defect.message = "type '" ++ qualifiedName ++
            "' declares an unnamed capability at position " ++ toString position) ∨
      (qualifiedName ≠ "" ∧ isIdentifierOrEmpty name = true ∧ "" ∉ capabilities ∧
        ∃ position, IsFirstUnnamed properties position ∧
          defect.message = "type '" ++ qualifiedName ++
            "' declares an unnamed property at position " ++ toString position) := by
  cases reported with
  | emptyQualifiedName unqualified => exact Or.inl ⟨unqualified, rfl⟩
  | notIdentifier qualified foreign => exact Or.inr (Or.inl ⟨qualified, foreign, rfl⟩)
  | unnamedCapability qualified identifier first =>
      exact Or.inr (Or.inr (Or.inl ⟨qualified, identifier, _, first, rfl⟩))
  | unnamedProperty qualified identifier named first =>
      exact Or.inr (Or.inr (Or.inr ⟨qualified, identifier, named, _, first, rfl⟩))

end Companion.Descriptor
