import Companion.Proofs.EntityClass.FieldNames
import Companion.Proofs.Generation.Rendered

/-!
# What generating a companion comes to

Four questions are asked in turn: is the type a candidate, is its descriptor without a defect, has
its package no gap in its name, and are the field names distinct. The first one with the answer no
decides what is returned, and a source is returned if there is none. `Generates` lists the five
outcomes with what leads to each of them.
-/

namespace Companion

namespace Descriptor

/-- The type is no transfer object and implements one of the two markers. -/
def IsCandidate (d : Descriptor) : Prop :=
  d.kind ≠ .transferObject ∧
    ∃ capability ∈ d.capabilities,
      capability = Capability.augmentable ∨ capability = Capability.augmentation

/-- The package has a name, and some segment of it is empty. -/
def HasGap (d : Descriptor) : Prop :=
  d.package ≠ "" ∧ [] ∈ nameSegments d.package

theorem hasCompanion_eq_true_iff (d : Descriptor) : d.hasCompanion = true ↔ d.IsCandidate := by
  simp [hasCompanion, IsCandidate, Capability.isMarker, Capability.markers]

theorem not_isCandidate_iff (d : Descriptor) :
    ¬ d.IsCandidate ↔
      d.kind = .transferObject ∨
        ∀ capability ∈ d.capabilities,
          capability ≠ Capability.augmentable ∧ capability ≠ Capability.augmentation := by
  rw [IsCandidate, not_and_or, not_not]
  simp only [not_exists, not_and, not_or, ne_eq]

theorem companionName_ne_empty (d : Descriptor) : d.companionName ≠ "" := by
  intro empty
  have letters := congrArg String.toList empty
  simp [companionName, companionNameOf, companionSuffix] at letters

theorem parse_companionName_eq_error_iff {d : Descriptor} (valid : d.validate = .ok ())
    (refusal : TypeRef.Refusal) :
    TypeRef.parse (qualify d.package d.companionName) = .error refusal ↔
      d.HasGap ∧ refusal = ⟨d.package ++ "." ++ d.companionName, .emptySegment⟩ := by
  rw [TypeRef.parse_qualify_eq_error_iff d.companionName_ne_empty (dot_not_mem_companionName valid),
    HasGap, and_assoc]

/-- What generating the companion of a type returns, and why. -/
inductive Generates (settings : Settings) (d : Descriptor) : Except GenerateError String → Prop where
  | skipped (ineligible : ¬ d.IsCandidate) : Generates settings d (.ok "")
  | invalid {defect : Defect} (candidate : d.IsCandidate) (found : d.validate = .error defect) :
      Generates settings d (.error (.invalidDescriptor defect))
  | gap (candidate : d.IsCandidate) (valid : d.validate = .ok ()) (gap : d.HasGap) :
      Generates settings d
        (.error (.invalidTypeRef ⟨d.package ++ "." ++ d.companionName, .emptySegment⟩))
  | repeated {property : Property} (candidate : d.IsCandidate) (valid : d.validate = .ok ())
      (sound : ¬ d.HasGap) (first : IsFirstRepeat d.properties property) :
      Generates settings d
        (.error (.duplicateField EntityClass.templateName property.name d.qualifiedName
          property.fieldName))
  | rendered {c : EntityClass} (candidate : d.IsCandidate) (valid : d.validate = .ok ())
      (sound : ¬ d.HasGap) (distinct : (d.properties.map Property.fieldName).Nodup)
      (resolved : (EntityClass.ofDescriptor d).run.value = .ok c) :
      Generates settings d (.ok (c.source settings))

end Descriptor

namespace EntityClass

variable {d : Descriptor}

theorem ofDescriptor_of_gap (valid : d.validate = .ok ()) (gap : d.HasGap) :
    (ofDescriptor d).run.value =
      .error (.invalidTypeRef ⟨d.package ++ "." ++ d.companionName, .emptySegment⟩) :=
  value_ofDescriptor_of_refused
    ((Descriptor.parse_companionName_eq_error_iff valid _).mpr ⟨gap, rfl⟩)

/-- Without a gap the class has a name that it can be referred to by. -/
theorem exists_own_of_not_hasGap (valid : d.validate = .ok ()) (sound : ¬ d.HasGap) :
    ∃ own, TypeRef.parse (qualify d.package d.companionName) = .ok own := by
  cases parsed : TypeRef.parse (qualify d.package d.companionName) with
  | ok own => exact ⟨own, rfl⟩
  | error refusal =>
      exact absurd ((Descriptor.parse_companionName_eq_error_iff valid refusal).mp parsed).1 sound

theorem ofDescriptor_of_repeat (valid : d.validate = .ok ()) (sound : ¬ d.HasGap)
    {property : Property} (first : IsFirstRepeat d.properties property) :
    (ofDescriptor d).run.value =
      .error (.duplicateField templateName property.name d.qualifiedName property.fieldName) := by
  obtain ⟨own, parsed⟩ := exists_own_of_not_hasGap valid sound
  exact value_ofDescriptor_of_repeat parsed ((isFirstRepeat_iff _ _).mpr first)

/-- Without a gap, distinct field names are enough for a class. -/
theorem ofDescriptor_of_nodup (valid : d.validate = .ok ()) (sound : ¬ d.HasGap)
    (distinct : (d.properties.map Property.fieldName).Nodup) :
    ∃ c, (ofDescriptor d).run.value = .ok c := by
  obtain ⟨own, parsed⟩ := exists_own_of_not_hasGap valid sound
  exact value_ofDescriptor_of_distinct parsed ((nodup_fieldNames_iff _).mpr distinct)

theorem fieldNames_of_ofDescriptor {c : EntityClass}
    (resolved : (ofDescriptor d).run.value = .ok c) :
    c.fields.map Field.name = d.properties.map Property.fieldName :=
  map_fields_of_ofDescriptor (fun _ _ => rfl) resolved

end EntityClass

namespace Template

variable (settings : Settings) (d : Descriptor)

/-- Every call has one of the five outcomes. -/
theorem generates_value :
    d.Generates settings ((entity settings).generate d).run.value := by
  rw [value_generate, value_render_entity]
  by_cases candidate : d.IsCandidate
  · rw [if_pos ((d.hasCompanion_eq_true_iff).mpr candidate)]
    cases valid : d.validate with
    | error defect => exact .invalid candidate valid
    | ok done =>
        by_cases gap : d.HasGap
        · rw [EntityClass.ofDescriptor_of_gap valid gap]
          exact .gap candidate valid gap
        · cases repeated : firstRepeat? [] d.properties with
          | some property =>
              have first := (isFirstRepeat_iff _ _).mp repeated
              rw [EntityClass.ofDescriptor_of_repeat valid gap first]
              exact .repeated candidate valid gap first
          | none =>
              have distinct := (nodup_fieldNames_iff _).mp repeated
              obtain ⟨c, resolved⟩ := EntityClass.ofDescriptor_of_nodup valid gap distinct
              rw [resolved]
              exact .rendered candidate valid gap distinct resolved
  · rw [if_neg (fun accepted => candidate ((d.hasCompanion_eq_true_iff).mp accepted))]
    exact .skipped candidate

variable {settings d}

/-- No two of the five outcomes have what leads to them in common. -/
theorem value_of_generates {outcome : Except GenerateError String}
    (generates : d.Generates settings outcome) :
    ((entity settings).generate d).run.value = outcome := by
  rw [value_generate, value_render_entity]
  cases generates with
  | skipped ineligible =>
      exact if_neg fun accepted => ineligible ((d.hasCompanion_eq_true_iff).mp accepted)
  | invalid candidate found =>
      rw [if_pos ((d.hasCompanion_eq_true_iff).mpr candidate), found]
  | gap candidate valid gap =>
      rw [if_pos ((d.hasCompanion_eq_true_iff).mpr candidate), valid,
        EntityClass.ofDescriptor_of_gap valid gap]
  | repeated candidate valid sound first =>
      rw [if_pos ((d.hasCompanion_eq_true_iff).mpr candidate), valid,
        EntityClass.ofDescriptor_of_repeat valid sound first]
  | rendered candidate valid _ _ resolved =>
      rw [if_pos ((d.hasCompanion_eq_true_iff).mpr candidate), valid, resolved]

theorem value_eq_ok_empty_iff :
    ((entity settings).generate d).run.value = .ok "" ↔ ¬ d.IsCandidate := by
  constructor
  · intro empty candidate
    have outcome := generates_value settings d
    rw [empty] at outcome
    generalize source : ("" : String) = text at outcome
    cases outcome with
    | skipped ineligible => exact ineligible candidate
    | rendered => exact EntityClass.source_ne_empty _ _ source.symm
  · exact fun ineligible => value_of_generates (.skipped ineligible)

/-- A source is rendered if all four questions are answered with yes. -/
theorem exists_rendered_iff :
    (∃ source, ((entity settings).generate d).run.value = .ok source ∧ source ≠ "") ↔
      d.IsCandidate ∧ d.validate = .ok () ∧ ¬ d.HasGap ∧
        (d.properties.map Property.fieldName).Nodup := by
  constructor
  · rintro ⟨source, generated, rendered⟩
    have outcome := generates_value settings d
    rw [generated] at outcome
    cases outcome with
    | skipped => exact absurd rfl rendered
    | rendered candidate valid sound distinct => exact ⟨candidate, valid, sound, distinct⟩
  · rintro ⟨candidate, valid, sound, distinct⟩
    obtain ⟨c, resolved⟩ := EntityClass.ofDescriptor_of_nodup valid sound distinct
    exact ⟨_, value_of_generates (.rendered candidate valid sound distinct resolved),
      EntityClass.source_ne_empty settings c⟩

/-- The outcome of generating, decided by the descriptor in a fixed order. The empty text stands for
a type that is no candidate and for nothing else, every other text is a source with distinct field
names, and each failure is reported in the words of its cause. -/
theorem outcome_of_generate (settings : Settings) (d : Descriptor) :
    (∀ outcome, ((entity settings).generate d).run.value = outcome ↔
      d.Generates settings outcome) ∧
    (((entity settings).generate d).run.value = .ok "" ↔
      d.kind = .transferObject ∨
        ∀ capability ∈ d.capabilities,
          capability ≠ Capability.augmentable ∧ capability ≠ Capability.augmentation) ∧
    (((entity settings).generate d).run.value = .ok "" ↔ d.hasCompanion = false) ∧
    ((∃ source, ((entity settings).generate d).run.value = .ok source ∧ source ≠ "") ↔
      d.IsCandidate ∧ d.validate = .ok () ∧ ¬ d.HasGap ∧
        (d.properties.map Property.fieldName).Nodup) ∧
    (∀ source, ((entity settings).generate d).run.value = .ok source → source ≠ "" →
      ∃ c, (EntityClass.ofDescriptor d).run.value = .ok c ∧ source = c.source settings ∧
        c.fields.map EntityClass.Field.name =
          d.properties.map (fun property => Text.uncapitalized property.name) ∧
        (c.fields.map EntityClass.Field.name).Nodup) ∧
    (∀ error, ((entity settings).generate d).run.value = .error error →
      (∃ defect, d.validate = .error defect ∧ error.report = .invalidArgument defect.message) ∨
      error.report =
        .invalidTypeRef (d.package ++ "." ++ (d.name ++ "Entity")) "empty name segment" ∨
      ∃ property, IsFirstRepeat d.properties property ∧
        error.report = .template "entity"
          s!"property '{property.name}' of '{d.qualifiedName}' maps to field '{Text.uncapitalized property.name}' more than once") := by
  refine ⟨fun outcome => ⟨?_, value_of_generates⟩, ?_, ?_, exists_rendered_iff, ?_, ?_⟩
  · rintro rfl
    exact generates_value settings d
  · rw [value_eq_ok_empty_iff, d.not_isCandidate_iff]
  · rw [value_eq_ok_empty_iff, ← d.hasCompanion_eq_true_iff, Bool.not_eq_true]
  · intro source generated rendered
    obtain ⟨_, _, c, resolved, written⟩ := rendered_iff.mp ⟨generated, rendered⟩
    have names := EntityClass.fieldNames_of_ofDescriptor resolved
    refine ⟨c, resolved, written, names, ?_⟩
    rw [names]
    exact EntityClass.nodup_fieldNames_of_ofDescriptor resolved
  · intro error failed
    have outcome := generates_value settings d
    rw [failed] at outcome
    cases outcome with
    | invalid candidate found => exact Or.inl ⟨_, found, rfl⟩
    | gap => exact Or.inr (Or.inl rfl)
    | repeated _ _ _ first => exact Or.inr (Or.inr ⟨_, first, rfl⟩)

end Template

end Companion
