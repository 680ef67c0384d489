import Companion.Proofs.EntityClass.TypeText
import Companion.Proofs.Generation.Rendered
import Companion.Proofs.Scope.Log
import Companion.Proofs.Scope.OwnNames

/-!
# What generating a companion logs

Between the note that the descriptor was found valid and rendered, and the source, the log is that of
one run of mentions: the class itself, the implicit types of all properties, then the types of the
properties one by one. So it tells the scope at the end, it tells of every implicit type twice, and
it tells of each type that is spelled out, and of no other one, that it was refused its simple name.
-/

namespace Companion

namespace EntityClass

def resolution (d : Descriptor) : Rendering (List Field × Scope) :=
  match TypeRef.parse (qualify d.package d.companionName) with
  | .error refusal => throw (.invalidTypeRef refusal)
  | .ok own => do
      let (_, scope) ← (∅ : Scope).mention own
      let scope ← claimImplicit scope d.properties
      declareFields d.qualifiedName [] scope d.properties

def ofResolution (d : Descriptor) (fields : List Field) (scope : Scope) : EntityClass where
  package := d.package
  name := d.companionName
  imports := scope.imports.filter (needsImport d.package)
  description := d.description
  fields := fields

theorem ofDescriptor_eq_resolution (d : Descriptor) :
    ofDescriptor d =
      resolution d >>= fun (fields, scope) => pure (ofResolution d fields scope) := by
  unfold ofDescriptor resolution
  cases TypeRef.parse (qualify d.package d.companionName) with
  | error refusal => rfl
  | ok own =>
      simp only [bind_assoc]
      rfl

theorem events_claimImplicit (scope : Scope) (properties : List Property) :
    (claimImplicit scope properties).events =
      (scope.mentionEach ((properties.map Property.type).filter TypeRef.isImplicit)).events := by
  induction properties generalizing scope with
  | nil => rfl
  | cons property rest ih =>
      cases implicit : property.type.isImplicit with
      | true =>
          simp [claimImplicit, implicit, ih, Scope.events_mentionEach_cons, Scope.mention]
      | false => simp [claimImplicit, implicit, ih]

/-- Fields that can be declared are declared with the log of the mentions of their types. -/
theorem events_declareFields {owner : String} {earlier : List String} {scope : Scope}
    {properties : List Property} {result : List Field × Scope}
    (declared : (declareFields owner earlier scope properties).run.value = .ok result) :
    (declareFields owner earlier scope properties).run.events =
      (scope.mentionEach (properties.map Property.type)).events := by
  induction properties generalizing earlier scope result with
  | nil => rfl
  | cons property rest ih =>
      rw [value_declareFields_cons] at declared
      split at declared
      · cases declared
      · next new =>
          split at declared
          · next fields last later =>
              rw [declareFields, if_neg new, List.map_cons, Scope.events_mentionEach_cons,
                ← ih later, Rendering.events_lift_bind]
              exact congrArg _ (Rendering.events_bind_pure _ _)
          · cases declared

/-- A class is resolved by one run of mentions, which leaves the scope and the log. -/
theorem run_of_resolution {d : Descriptor} {fields : List Field} {scope : Scope}
    (resolved : (resolution d).run.value = .ok (fields, scope)) :
    ∃ own, TypeRef.parse (qualify d.package d.companionName) = .ok own ∧
      scope = ((∅ : Scope).mentionEach (History.ofClass own d.types d.types)).value.2 ∧
      (resolution d).run.events =
        ((∅ : Scope).mentionEach (History.ofClass own d.types d.types)).events := by
  unfold resolution at resolved ⊢
  cases parsed : TypeRef.parse (qualify d.package d.companionName) with
  | error refusal =>
      rw [parsed] at resolved
      cases resolved
  | ok own =>
      rw [parsed] at resolved
      simp only [Rendering.value_bind, Rendering.value_lift, Scope.mention] at resolved
      -- The class and the implicit types ask first, and the fields go on from where they end.
      have claimed : (claimImplicit ((∅ : Scope).add own) d.properties).value =
          ((∅ : Scope).mentionEach (own :: d.types.filter TypeRef.isImplicit)).value.2 :=
        value_claimImplicit _ _
      refine ⟨own, rfl, ?_, ?_⟩
      · have last := congrArg Prod.snd (eq_of_declareFields_eq_ok resolved)
        rw [History.ofClass, Scope.scope_mentionEach_append, ← claimed]
        exact last
      · have log := congrArg₂ (· ++ ·) (events_claimImplicit ((∅ : Scope).add own) d.properties)
          (events_declareFields resolved)
        rw [History.ofClass, Scope.events_mentionEach_append, Scope.events_mentionEach_cons,
          List.append_assoc, ← claimed]
        refine (Rendering.events_lift_bind _ _).trans (congrArg ((∅ : Scope).eventsFor own ++ ·) ?_)
        exact (Rendering.events_lift_bind _ _).trans log

theorem resolution_of_ofDescriptor {d : Descriptor} {c : EntityClass}
    (resolved : (ofDescriptor d).run.value = .ok c) :
    ∃ fields scope, (resolution d).run.value = .ok (fields, scope) ∧
      c = ofResolution d fields scope := by
  rw [ofDescriptor_eq_resolution, Rendering.value_bind] at resolved
  cases result : (resolution d).run.value with
  | error error =>
      rw [result] at resolved
      cases resolved
  | ok parts =>
      rw [result] at resolved
      cases resolved
      exact ⟨parts.1, parts.2, rfl, rfl⟩

end EntityClass

namespace History

variable {own : TypeRef} {types : List TypeRef}

theorem claimed_ofClass (own : TypeRef) (types : List TypeRef) :
    Claimed (own :: types.filter TypeRef.isImplicit) types :=
  fun _ inside implicit => List.mem_cons_of_mem own (List.mem_filter.mpr ⟨inside, implicit⟩)

theorem mem_of_mem_ofClass {ref : TypeRef} (inside : ref ∈ ofClass own types types) :
    ref ∈ own :: types := by
  rcases List.mem_append.mp inside with before | asked
  · rcases List.mem_cons.mp before with rfl | claimed
    · exact List.mem_cons_self
    · exact List.mem_cons_of_mem own (List.mem_of_mem_filter claimed)
  · exact List.mem_cons_of_mem own asked

/-- Every implicit type of a property asks twice, and the class asks once. -/
theorem length_implicit_ofClass (own : TypeRef) (types : List TypeRef) :
    ((ofClass own types types).filter TypeRef.isImplicit).length =
      2 * (types.filter TypeRef.isImplicit).length + if own.isImplicit then 1 else 0 := by
  have once : (types.filter TypeRef.isImplicit).filter TypeRef.isImplicit =
      types.filter TypeRef.isImplicit :=
    List.filter_eq_self.mpr fun _ inside => (List.mem_filter.mp inside).2
  rw [ofClass, List.filter_append, List.filter_cons, once]
  split
  · rw [List.length_append, List.length_cons]
    omega
  · rw [List.length_append]
    omega

end History

namespace Scope

/-- A scope shuts out the types that are not implicit and not among its imports. -/
theorem KeepsOwnNames.shutsOut_eq {scope : Scope} (keeps : scope.KeepsOwnNames) (ref : TypeRef) :
    scope.shutsOut ref =
      (!ref.isImplicit && decide (ref.canonicalName ∉ scope.imports)) := by
  simp only [shutsOut, keeps.mem_imports_iff_holds]

/-- The refusals in the log of a class are those of the types that its scope shuts out in the end. -/
theorem refusals_ofClass (own : TypeRef) (types : List TypeRef) :
    List.Forall₂ (Refuses (own :: types))
      (types.filter ((∅ : Scope).mentionEach (History.ofClass own types types)).value.2.shutsOut)
      (((∅ : Scope).mentionEach (History.ofClass own types types)).events.filter
        Event.isRefusal) := by
  have claimed := remembers_empty.mentionEach (own :: types.filter TypeRef.isImplicit)
  have silent : ((∅ : Scope).mentionEach
      (own :: types.filter TypeRef.isImplicit)).events.filter Event.isRefusal = [] := by
    rw [events_mentionEach_cons, List.filter_append, refusals_eventsFor_empty,
      refusals_of_isImplicit _ fun ref inside => (List.mem_filter.mp inside).2]
    rfl
  have refusals := claimed.refusals_mentionEach (History.claimed_ofClass own types)
  rw [History.ofClass, events_mentionEach_append, scope_mentionEach_append, List.filter_append,
    silent, List.nil_append]
  refine refusals.imp ?_
  rintro target event ⟨other, inside, refusal⟩
  exact ⟨other, History.mem_of_mem_ofClass inside, refusal⟩

end Scope

namespace Template

theorem events_render (settings : Settings) (d : Descriptor) :
    ((entity settings).render d).run.events = (EntityClass.resolution d).run.events := by
  refine (Rendering.events_bind_pure (EntityClass.ofDescriptor d) _).trans ?_
  rw [EntityClass.ofDescriptor_eq_resolution]
  exact Rendering.events_bind_pure (EntityClass.resolution d) _

theorem events_generate (settings : Settings) {d : Descriptor} (accepted : d.hasCompanion = true)
    (valid : d.validate = .ok ()) :
    ((entity settings).generate d).run.events =
      [.validated d.qualifiedName, .rendering d.qualifiedName EntityClass.templateName] ++
        (EntityClass.resolution d).run.events := by
  have entered : (entity settings).generate d = (do
      Traced.emit (.validated d.qualifiedName)
      Traced.emit (.rendering d.qualifiedName EntityClass.templateName)
      (entity settings).render d) := by
    unfold generate Descriptor.requireValid
    rw [accepted, valid]
    rfl
  rw [entered, Rendering.events_lift_bind, Rendering.events_lift_bind, events_render]
  rfl

/-- The log of a rendered source. The refusals in it are, in the order of the properties and one for
each, those of the types that are not implicit and not held by the scope at the end of the rendering.
Each implicit type of a property takes its name over twice, and the class itself once if it is
implicit. The bindings in the log, inserted in order into an empty map, give the scope at the end.
The three kinds of events are told apart by their levels and their messages. -/
theorem log_of_generate {settings : Settings} {d : Descriptor} {source : String}
    (generated : ((entity settings).generate d).run.value = .ok source)
    (rendered : source ≠ "") :
    ∃ own fields scope events,
      TypeRef.parse (qualify d.package d.companionName) = .ok own ∧
      (EntityClass.resolution d).run.value = .ok (fields, scope) ∧
      (EntityClass.ofDescriptor d).run.value = .ok (EntityClass.ofResolution d fields scope) ∧
      source = (EntityClass.ofResolution d fields scope).source settings ∧
      ((entity settings).generate d).run.events = events ∧
      List.Forall₂
        (fun property event => ∃ other ∈ own :: d.types,
          other.simpleName = property.type.simpleName ∧
          other.canonicalName ≠ property.type.canonicalName ∧
          event = .qualified property.type.simpleName other.canonicalName
            property.type.canonicalName ∧
          event.level = .debug ∧
          event.message = "'" ++ property.type.simpleName ++ "' already bound to '" ++
            other.canonicalName ++ "', qualifying '" ++ property.type.canonicalName ++ "'")
        (d.properties.filter fun property =>
          !property.type.isImplicit && decide (property.type.canonicalName ∉ scope.imports))
        (events.filter Event.isRefusal) ∧
      (events.filter Event.isTakeOver).length =
        2 * (d.properties.filter fun property => property.type.isImplicit).length +
          (if own.isImplicit then 1 else 0) ∧
      events.foldl Scope.replay ∅ = scope ∧
      (events.filterMap Event.binding?).foldl
        (fun holders binding => holders.insert binding.1 binding.2) ∅ = scope.holders ∧
      (∀ event : Event, event.isRefusal = true ↔
        event.level = .debug ∧ ∃ simple holder canonical : String,
          event.message = "'" ++ simple ++ "' already bound to '" ++ holder ++ "', qualifying '" ++
            canonical ++ "'") ∧
      (∀ event : Event, event.isTakeOver = true ↔
        event.level = .trace ∧ ∃ simple canonical : String,
          event.message = "binding implicit '" ++ simple ++ "' -> '" ++ canonical ++ "'") ∧
      (∀ event : Event, event.binding?.isSome = true ↔
        event.level = .trace ∧ ∃ simple canonical : String,
          event.message = "binding '" ++ simple ++ "' -> '" ++ canonical ++ "'" ∨
            event.message = "binding implicit '" ++ simple ++ "' -> '" ++ canonical ++ "'") ∧
      ∀ (event : Event) (simple canonical : String),
        event.binding? = some (simple, canonical) →
          event.message = (if event.isTakeOver then "binding implicit '" else "binding '") ++
            simple ++ "' -> '" ++ canonical ++ "'" := by
  obtain ⟨accepted, valid, c, resolved, written⟩ := rendered_iff.mp ⟨generated, rendered⟩
  have log := events_generate settings accepted valid
  obtain ⟨fields, scope, parts, rfl⟩ := EntityClass.resolution_of_ofDescriptor resolved
  obtain ⟨own, parsed, last, events⟩ := EntityClass.run_of_resolution parts
  rw [events] at log
  have keeps : scope.KeepsOwnNames := by
    rw [last]
    exact Scope.keepsOwnNames_empty.mentionEach _
  have replayed : ((entity settings).generate d).run.events.foldl Scope.replay ∅ = scope := by
    rw [log, List.foldl_append, last]
    exact Scope.replay_mentionEach ∅ _
  refine ⟨own, fields, scope, _, parsed, parts, resolved, written, rfl, ?_, ?_, replayed, ?_,
    Event.isRefusal_iff, Event.isTakeOver_iff, Event.isSome_binding?_iff,
    fun event simple canonical binding => (Event.of_binding?_eq_some binding).2⟩
  · have refusals := Scope.refusals_ofClass own d.types
    rw [← last, Descriptor.types, List.filter_map, List.forall₂_map_left_iff] at refusals
    simp only [Function.comp_def, keeps.shutsOut_eq] at refusals
    rw [log]
    refine refusals.imp ?_
    rintro property event ⟨other, inside, named, different, rfl⟩
    exact ⟨other, inside, named, different, rfl, rfl, rfl⟩
  · have implicit : (d.types.filter TypeRef.isImplicit).length =
        (d.properties.filter fun property => property.type.isImplicit).length := by
      rw [Descriptor.types, List.filter_map, List.length_map]
      rfl
    rw [log, ← implicit, ← History.length_implicit_ofClass, List.filter_append,
      Scope.takeOvers_mentionEach, List.length_append, List.length_map]
    exact Nat.zero_add _
  · rw [← replayed, Scope.holders_foldl_replay]
    rfl

/-- Of the properties of a type with rivals three are refused a name, and one takes a name over. -/
theorem log_of_rivals :
    ∃ source fields scope events,
      ((entity {}).generate EntityClass.rivals).run.value = .ok source ∧ source ≠ "" ∧
      (EntityClass.resolution EntityClass.rivals).run.value = .ok (fields, scope) ∧
      ((entity {}).generate EntityClass.rivals).run.events = events ∧
      (EntityClass.rivals.properties.filter fun property =>
        !property.type.isImplicit && decide (property.type.canonicalName ∉ scope.imports)).map
          Property.name = ["label", "table", "other"] ∧
      (events.filter Event.isRefusal).length = 3 ∧
      (events.filter Event.isRefusal).map Event.message =
        ["'String' already bound to 'java.lang.String', qualifying 'com.example.String'",
          "'Map' already bound to 'java.util.Map', qualifying 'com.example.Map'",
          "'RouteEntity' already bound to 'org.example.RouteEntity', qualifying " ++
            "'org.other.RouteEntity'"] ∧
      (events.filter Event.isTakeOver).length = 2 ∧
      (events.foldl Scope.replay ∅).holder? "String" = some "java.lang.String" := by
  obtain ⟨source, generated, rendered⟩ := EntityClass.rivals_rendered {}
  obtain ⟨own, fields, scope, events, parsed, parts, _, _, log, refusals, takeOvers, replayed, _⟩ :=
    log_of_generate generated rendered
  have ordinary : own.isImplicit = false := by
    rw [TypeRef.isImplicit, (TypeRef.parse_eq_ok_iff _ _).mp parsed]
    decide
  have shutOut : (EntityClass.rivals.properties.filter fun property =>
      !property.type.isImplicit && decide (property.type.canonicalName ∉ scope.imports)).map
        Property.name = ["label", "table", "other"] := by
    cases parts
    decide +kernel
  have three := congrArg List.length shutOut
  rw [List.length_map, refusals.length_eq] at three
  rw [ordinary] at takeOvers
  refine ⟨source, fields, scope, events, generated, rendered, parts, log, shutOut, three, ?_,
    takeOvers.trans (by decide), ?_⟩
  · rw [← log]
    decide +kernel
  · rw [replayed]
    cases parts
    decide +kernel

end Template

end Companion
