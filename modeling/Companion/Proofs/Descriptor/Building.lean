import Companion.Proofs.Descriptor.Defects
import Companion.Proofs.Generation.Rendered

/-!
# Descriptors that are built up step by step

Each step of building is about one aspect of the descriptor, and steps about different aspects
commute, so only the order of the steps about the same aspect matters. What is added without a name
stays in the descriptor: once validation fails, it fails after all further steps.
-/

namespace Companion.Descriptor

inductive Step.Aspect where
  | kind
  | capability
  | property
  | description
deriving DecidableEq, Repr

def Step.aspect : Step → Aspect
  | .kind _ => .kind
  | .capability _ => .capability
  | .property _ => .property
  | .description _ => .description

def stepsAbout (aspect : Step.Aspect) (steps : List Step) : List Step :=
  steps.filter fun step => step.aspect = aspect

/-- The names that steps add to the list of capabilities, in the order of these steps. -/
def capabilityNames (steps : List Step) : List String :=
  steps.filterMap fun
    | .capability name => some name
    | _ => none

def propertyNames (steps : List Step) : List String :=
  steps.filterMap fun
    | .property property => some property.name
    | _ => none

/-- The same steps in another order, those about the same aspect in the same order. -/
def Rearranged (steps other : List Step) : Prop :=
  ∀ aspect, stepsAbout aspect other = stepsAbout aspect steps

/-- What a run of steps adds, and the names that it leaves as they are. -/
theorem foldl_apply (d : Descriptor) (steps : List Step) :
    (steps.foldl apply d).name = d.name ∧
      (steps.foldl apply d).qualifiedName = d.qualifiedName ∧
      (steps.foldl apply d).capabilities = d.capabilities ++ capabilityNames steps ∧
      (steps.foldl apply d).properties.map Property.name =
        d.properties.map Property.name ++ propertyNames steps := by
  induction steps generalizing d with
  | nil => exact ⟨rfl, rfl, (List.append_nil _).symm, (List.append_nil _).symm⟩
  | cons step rest ih =>
      obtain ⟨name, qualifiedName, capabilities, properties⟩ := ih (apply d step)
      rw [List.foldl_cons, name, qualifiedName, capabilities, properties]
      cases step <;> simp [apply, capabilityNames, propertyNames]

theorem mem_capabilityNames_iff {name : String} {steps : List Step} :
    name ∈ capabilityNames steps ↔ .capability name ∈ steps := by
  rw [capabilityNames, List.mem_filterMap]
  constructor
  · rintro ⟨step, inside, added⟩
    cases step <;> cases added
    exact inside
  · intro inside
    exact ⟨_, inside, rfl⟩

theorem mem_propertyNames_iff {name : String} {steps : List Step} :
    name ∈ propertyNames steps ↔ ∃ property, .property property ∈ steps ∧ property.name = name := by
  rw [propertyNames, List.mem_filterMap]
  constructor
  · rintro ⟨step, inside, added⟩
    cases step with
    | property property => exact ⟨property, inside, Option.some.inj added⟩
    | _ => cases added
  · rintro ⟨property, inside, rfl⟩
    exact ⟨_, inside, rfl⟩

theorem apply_comm (d : Descriptor) {first second : Step} (differ : first.aspect ≠ second.aspect) :
    (d.apply first).apply second = (d.apply second).apply first := by
  cases first <;> cases second <;> simp [apply, Step.aspect] at differ ⊢

/-- A step can be moved behind a run of steps about other aspects. -/
theorem foldl_apply_comm (d : Descriptor) {step : Step} {steps : List Step}
    (differ : ∀ other ∈ steps, other.aspect ≠ step.aspect) :
    steps.foldl apply (d.apply step) = (steps.foldl apply d).apply step := by
  induction steps generalizing d with
  | nil => rfl
  | cons other rest ih =>
      rw [List.foldl_cons, List.foldl_cons, ← apply_comm d (differ other List.mem_cons_self)]
      exact ih (d.apply other) fun later inside => differ later (List.mem_cons_of_mem _ inside)

theorem stepsAbout_cons_self (step : Step) (rest : List Step) :
    stepsAbout step.aspect (step :: rest) = step :: stepsAbout step.aspect rest :=
  List.filter_cons_of_pos (decide_eq_true rfl)

theorem stepsAbout_cons_of_ne {aspect : Step.Aspect} {step : Step} (rest : List Step)
    (differ : step.aspect ≠ aspect) :
    stepsAbout aspect (step :: rest) = stepsAbout aspect rest :=
  List.filter_cons_of_neg fun same => differ (of_decide_eq_true same)

theorem stepsAbout_append (aspect : Step.Aspect) (steps later : List Step) :
    stepsAbout aspect (steps ++ later) = stepsAbout aspect steps ++ stepsAbout aspect later :=
  List.filter_append _ _

/-- The first of the steps stands in every rearrangement behind steps about other aspects only, and
without it the others are still rearranged. -/
theorem Rearranged.exists_split {step : Step} {rest other : List Step}
    (order : Rearranged (step :: rest) other) :
    ∃ before after, other = before ++ step :: after ∧
      (∀ earlier ∈ before, earlier.aspect ≠ step.aspect) ∧ Rearranged rest (before ++ after) := by
  have own := order step.aspect
  rw [stepsAbout_cons_self] at own
  obtain ⟨before, after, rfl, others, _, following⟩ := List.filter_eq_cons_iff.mp own
  have differ : ∀ earlier ∈ before, earlier.aspect ≠ step.aspect := fun earlier inside same =>
    others earlier inside (decide_eq_true same)
  refine ⟨before, after, rfl, differ, ?_⟩
  intro aspect
  have kept := order aspect
  rw [stepsAbout_append] at kept ⊢
  by_cases same : step.aspect = aspect
  · subst same
    have none : stepsAbout step.aspect before = [] := List.filter_eq_nil_iff.mpr others
    rw [none]
    exact following
  · rw [stepsAbout_cons_of_ne _ same, stepsAbout_cons_of_ne _ same] at kept
    exact kept

theorem Rearranged.eq_nil {other : List Step} (order : Rearranged [] other) : other = [] := by
  cases other with
  | nil => rfl
  | cons step rest =>
      have own := order step.aspect
      rw [stepsAbout_cons_self] at own
      cases own

/-- Only the order of the steps about the same aspect matters. -/
theorem foldl_apply_of_rearranged (d : Descriptor) {steps other : List Step}
    (order : Rearranged steps other) : other.foldl apply d = steps.foldl apply d := by
  induction steps generalizing d other with
  | nil => rw [order.eq_nil]
  | cons step rest ih =>
      obtain ⟨before, after, rfl, differ, still⟩ := order.exists_split
      calc
        (before ++ step :: after).foldl apply d
        _ = after.foldl apply ((before.foldl apply d).apply step) := by
              rw [List.foldl_append, List.foldl_cons]
        _ = (before ++ after).foldl apply (d.apply step) := by
              rw [List.foldl_append, foldl_apply_comm d differ]
        _ = (step :: rest).foldl apply d := ih (d.apply step) still

section Build

variable {name qualifiedName : String} {steps : List Step}

theorem parts_of_build :
    (build name qualifiedName steps).name = name ∧
      (build name qualifiedName steps).qualifiedName = qualifiedName ∧
      (build name qualifiedName steps).capabilities = capabilityNames steps ∧
      (build name qualifiedName steps).properties.map Property.name = propertyNames steps :=
  foldl_apply { name, qualifiedName } steps

theorem validate_build_eq_error_iff (defect : Defect) :
    (build name qualifiedName steps).validate = .error defect ↔
      Reported name qualifiedName (capabilityNames steps) (propertyNames steps) defect := by
  obtain ⟨sameName, sameQualifiedName, capabilities, properties⟩ :=
    @parts_of_build name qualifiedName steps
  rw [validate_eq_error_iff, sameName, sameQualifiedName, capabilities, properties]

theorem validate_build_eq_ok_iff :
    (build name qualifiedName steps).validate = .ok () ↔
      qualifiedName ≠ "" ∧ isIdentifierOrEmpty name = true ∧
        .capability "" ∉ steps ∧ ∀ property, .property property ∈ steps → property.name ≠ "" := by
  obtain ⟨sameName, sameQualifiedName, capabilities, properties⟩ :=
    @parts_of_build name qualifiedName steps
  rw [validate_eq_ok_iff, sameName, sameQualifiedName, capabilities, ← mem_capabilityNames_iff]
  refine and_congr Iff.rfl (and_congr Iff.rfl (and_congr ?_ ?_))
  · constructor
    · intro named unnamed
      exact named "" unnamed rfl
    · rintro named _ inside rfl
      exact named inside
  · constructor
    · intro named property inside unnamed
      have listed := mem_propertyNames_iff.mpr ⟨property, inside, unnamed⟩
      rw [← properties] at listed
      obtain ⟨held, among, empty⟩ := List.mem_map.mp listed
      exact named held among empty
    · intro named property inside unnamed
      have listed : property.name ∈ propertyNames steps := properties ▸ List.mem_map_of_mem inside
      obtain ⟨added, among, same⟩ := mem_propertyNames_iff.mp listed
      exact named added among (same.trans unnamed)

/-- What makes validation fail stays in the descriptor. -/
theorem exists_error_of_isPrefix {earlier : List Step} (begins : earlier <+: steps) {defect : Defect}
    (refused : (build name qualifiedName earlier).validate = .error defect) :
    ∃ later, (build name qualifiedName steps).validate = .error later := by
  cases outcome : (build name qualifiedName steps).validate with
  | error later => exact ⟨later, rfl⟩
  | ok _ =>
      obtain ⟨qualified, identifier, capabilities, properties⟩ :=
        validate_build_eq_ok_iff.mp outcome
      have valid := validate_build_eq_ok_iff.mpr ⟨qualified, identifier,
        fun inside => capabilities (begins.subset inside),
        fun property inside => properties property (begins.subset inside)⟩
      rw [valid] at refused
      cases refused

end Build

/-- For every sequence of steps: a defect of what is built up to some step is followed by a defect of
what is built in the end; there is none exactly if both names of the type pass and no step adds an
entry without a name; the defect that is reported is the first one in the order of the checks, at
the smallest position among the steps that add to the same list, and its message shows that
position; and steps about different aspects can be exchanged. -/
theorem validation_of_build (name qualifiedName : String) (steps : List Step) :
    (∀ earlier defect, earlier <+: steps →
      (build name qualifiedName earlier).validate = .error defect →
      ∃ later, (build name qualifiedName steps).validate = .error later) ∧
    ((build name qualifiedName steps).validate = .ok () ↔
      qualifiedName ≠ "" ∧ isIdentifierOrEmpty name = true ∧
        .capability "" ∉ steps ∧ ∀ property, .property property ∈ steps → property.name ≠ "") ∧
    (∀ defect, (build name qualifiedName steps).validate = .error defect ↔
      Reported name qualifiedName (capabilityNames steps) (propertyNames steps) defect) ∧
    (∀ defect, (build name qualifiedName steps).validate = .error defect →
      (qualifiedName = "" ∧
          defect.message = "type '" ++ name ++ "' has an empty fully-qualified name") ∨
        (qualifiedName ≠ "" ∧ isIdentifierOrEmpty name = false ∧
          defect.message = "type '" ++ qualifiedName ++
            "' has a name that is not an identifier: '" ++ name ++ "'") ∨
        (qualifiedName ≠ "" ∧ isIdentifierOrEmpty name = true ∧
          ∃ position, IsFirstUnnamed (capabilityNames steps) position ∧
            defect.message = "type '" ++ qualifiedName ++
              "' declares an unnamed capability at position " ++ toString position) ∨
        (qualifiedName ≠ "" ∧ isIdentifierOrEmpty name = true ∧ "" ∉ capabilityNames steps ∧
          ∃ position, IsFirstUnnamed (propertyNames steps) position ∧
            defect.message = "type '" ++ qualifiedName ++
              "' declares an unnamed property at position " ++ toString position)) ∧
    ∀ other, Rearranged steps other →
      build name qualifiedName other = build name qualifiedName steps := by
  refine ⟨?_, validate_build_eq_ok_iff, validate_build_eq_error_iff, ?_, ?_⟩
  · intro earlier defect begins refused
    exact exists_error_of_isPrefix begins refused
  · intro defect refused
    exact ((validate_build_eq_error_iff defect).mp refused).message
  · intro other order
    exact foldl_apply_of_rearranged { name, qualifiedName } order

def nameless : Property where
  name := ""
  type := ⟨"org.example.Age", by decide⟩

/-- A property without a name, and later a capability without one, which is reported first. -/
def mixedSteps : List Step := [
    .property nameless,
    .kind .other,
    .capability "org.example.Named",
    .capability ""]

def exchangedSteps : List Step := [
    .capability "org.example.Named",
    .capability "",
    .kind .other,
    .property nameless]

theorem validation_of_mixedSteps :
    (build "Foo" "org.example.Foo" (mixedSteps.take 1)).validate =
        .error (.unnamedProperty "org.example.Foo" 0) ∧
      (∃ later, (build "Foo" "org.example.Foo" mixedSteps).validate = .error later ∧
        later.message = "type 'org.example.Foo' declares an unnamed capability at position 1") ∧
      (∃ later, (build "Foo" "org.example.Foo" mixedSteps).validate = .error later) ∧
      Reported "Foo" "org.example.Foo" (capabilityNames mixedSteps) (propertyNames mixedSteps)
        (.unnamedCapability "org.example.Foo" 1) ∧
      build "Foo" "org.example.Foo" exchangedSteps = build "Foo" "org.example.Foo" mixedSteps := by
  obtain ⟨kept, _, reported, _, exchanged⟩ :=
    validation_of_build "Foo" "org.example.Foo" mixedSteps
  have first : (build "Foo" "org.example.Foo" (mixedSteps.take 1)).validate =
      .error (.unnamedProperty "org.example.Foo" 0) := by rfl
  have last : (build "Foo" "org.example.Foo" mixedSteps).validate =
      .error (.unnamedCapability "org.example.Foo" 1) := by rfl
  have order : Rearranged mixedSteps exchangedSteps := by
    intro aspect
    cases aspect <;> rfl
  exact ⟨first, ⟨_, last, by decide⟩, kept _ _ (List.take_prefix 1 mixedSteps) first,
    (reported _).mp last, exchanged exchangedSteps order⟩

end Companion.Descriptor
