import Companion.Proofs.Event.Message
import Companion.Proofs.Scope.Passes
import Companion.Proofs.Scope.ShortNames
import Mathlib.Data.List.Forall2

/-!
# What a scope logs

A mention logs at most one event: that it took a simple name over, that it bound a free one, or that
it was refused the name. The log of a run tells its whole story. Replaying the bindings in it gives
the scope at the end. Once all implicit types have asked, the refusals in it are those of the types
that do not hold their simple names at the end either, in the order in which they asked.
-/

namespace Companion

namespace Scope

/-- The scope after what an event tells: a binding is made, in place of an older one. -/
def replay (scope : Scope) : Event → Scope
  | .boundImplicit simpleName canonicalName => scope.bind simpleName canonicalName
  | .bound simpleName canonicalName => scope.bind simpleName canonicalName
  | _ => scope

/-- What a mention logs, and in which of four cases. -/
inductive Logs (scope : Scope) (target : TypeRef) : List Event → Prop where
  | takenOver (implicit : target.isImplicit = true) :
      Logs scope target [.boundImplicit target.simpleName target.canonicalName]
  | bound (ordinary : target.isImplicit ≠ true) (free : scope.holder? target.simpleName = none) :
      Logs scope target [.bound target.simpleName target.canonicalName]
  | confirmed (ordinary : target.isImplicit ≠ true)
      (held : scope.holder? target.simpleName = some target.canonicalName) : Logs scope target []
  | refused {holder : String} (ordinary : target.isImplicit ≠ true)
      (held : scope.holder? target.simpleName = some holder)
      (other : holder ≠ target.canonicalName) :
      Logs scope target [.qualified target.simpleName holder target.canonicalName]

theorem logs_eventsFor (scope : Scope) (target : TypeRef) :
    scope.Logs target (scope.eventsFor target) := by
  by_cases implicit : target.isImplicit = true
  · simp only [eventsFor, answer, implicit, if_true]
    exact .takenOver implicit
  · cases held : scope.holder? target.simpleName with
    | none =>
        simp only [eventsFor, answer, implicit, held, Bool.false_eq_true, if_false]
        exact .bound implicit held
    | some holder =>
        by_cases own : holder = target.canonicalName
        · simp only [eventsFor, answer, implicit, held, own, Bool.false_eq_true, if_false, if_true]
          exact .confirmed implicit (own ▸ held)
        · simp only [eventsFor, answer, implicit, held, own, Bool.false_eq_true, if_false]
          exact .refused implicit held own

theorem events_mentionEach_cons (scope : Scope) (target : TypeRef) (rest : List TypeRef) :
    (scope.mentionEach (target :: rest)).events =
      scope.eventsFor target ++ ((scope.add target).mentionEach rest).events := by
  have whole : (scope.mentionEach (target :: rest)).events =
      scope.eventsFor target ++ (((scope.add target).mentionEach rest).events ++ []) := rfl
  rw [whole, List.append_nil]

theorem scope_mentionEach_append (scope : Scope) (targets others : List TypeRef) :
    (scope.mentionEach (targets ++ others)).value.2 =
      ((scope.mentionEach targets).value.2.mentionEach others).value.2 := by
  induction targets generalizing scope with
  | nil => rfl
  | cons target rest ih => exact ih (scope.add target)

theorem events_mentionEach_append (scope : Scope) (targets others : List TypeRef) :
    (scope.mentionEach (targets ++ others)).events =
      (scope.mentionEach targets).events ++
        ((scope.mentionEach targets).value.2.mentionEach others).events := by
  induction targets generalizing scope with
  | nil => rfl
  | cons target rest ih =>
      rw [List.cons_append, events_mentionEach_cons, events_mentionEach_cons, ih, List.append_assoc]
      rfl

section Replay

/-- The log of a mention tells what the mention does to the scope. -/
theorem replay_eventsFor (scope : Scope) (target : TypeRef) :
    (scope.eventsFor target).foldl replay scope = scope.add target := by
  rw [eventsFor, add]
  cases scope.answer target <;> rfl

/-- The log of a run tells what the run does to the scope. -/
theorem replay_mentionEach (scope : Scope) (targets : List TypeRef) :
    (scope.mentionEach targets).events.foldl replay scope =
      (scope.mentionEach targets).value.2 := by
  induction targets generalizing scope with
  | nil => rfl
  | cons target rest ih =>
      rw [events_mentionEach_cons, List.foldl_append, replay_eventsFor, ih]
      rfl

/-- Only the bindings in a log change a scope, each of them as an insertion. -/
theorem holders_foldl_replay (scope : Scope) (events : List Event) :
    (events.foldl replay scope).holders =
      (events.filterMap Event.binding?).foldl
        (fun holders binding => holders.insert binding.1 binding.2) scope.holders := by
  induction events generalizing scope with
  | nil => rfl
  | cons event rest ih =>
      rw [List.foldl_cons, ih]
      cases event <;> rfl

end Replay

section TakeOvers

theorem takeOvers_eventsFor (scope : Scope) (target : TypeRef) :
    (scope.eventsFor target).filter Event.isTakeOver =
      if target.isImplicit then [.boundImplicit target.simpleName target.canonicalName] else [] := by
  have logs := scope.logs_eventsFor target
  generalize scope.eventsFor target = events at logs ⊢
  cases logs with
  | takenOver implicit =>
      rw [if_pos implicit]
      rfl
  | bound ordinary => exact (if_neg ordinary).symm
  | confirmed ordinary => exact (if_neg ordinary).symm
  | refused ordinary => exact (if_neg ordinary).symm

/-- The names that a run takes over are those of its implicit types. -/
theorem takeOvers_mentionEach (scope : Scope) (targets : List TypeRef) :
    (scope.mentionEach targets).events.filter Event.isTakeOver =
      (targets.filter TypeRef.isImplicit).map fun ref =>
        .boundImplicit ref.simpleName ref.canonicalName := by
  induction targets generalizing scope with
  | nil => rfl
  | cons target rest ih =>
      rw [events_mentionEach_cons, List.filter_append, takeOvers_eventsFor, ih, List.filter_cons]
      split <;> rfl

end TakeOvers

section Refusals

/-- Whether a type is spelled out: it is not implicit, and its simple name does not stand for it. -/
def shutsOut (scope : Scope) (target : TypeRef) : Bool :=
  !target.isImplicit &&
    decide (scope.holder? target.simpleName ≠ some target.canonicalName)

/-- An event tells that a type was refused its simple name, which another type of the history has. -/
def Refuses (history : List TypeRef) (target : TypeRef) (event : Event) : Prop :=
  ∃ other ∈ history, other.simpleName = target.simpleName ∧
    other.canonicalName ≠ target.canonicalName ∧
    event = .qualified target.simpleName other.canonicalName target.canonicalName

variable {scope : Scope} {history targets : List TypeRef} {target : TypeRef}

theorem shutsOut_eq_true_iff :
    scope.shutsOut target = true ↔
      target.isImplicit ≠ true ∧ scope.holder? target.simpleName ≠ some target.canonicalName := by
  simp [shutsOut]

theorem shutsOut_of_isImplicit (scope : Scope) (implicit : target.isImplicit = true) :
    scope.shutsOut target = false := by
  rw [shutsOut, implicit]
  rfl

/-- Nothing is refused to a type that is written by its simple name. -/
theorem refusals_eventsFor_of_not_shutsOut (kept : (scope.add target).shutsOut target = false) :
    (scope.eventsFor target).filter Event.isRefusal = [] := by
  have logs := scope.logs_eventsFor target
  generalize scope.eventsFor target = events at logs ⊢
  cases logs with
  | takenOver _ => rfl
  | bound _ _ => rfl
  | confirmed _ _ => rfl
  | refused ordinary held other =>
      have out : (scope.add target).shutsOut target = true := by
        rw [shutsOut_eq_true_iff, holder?_add, if_neg ordinary, held]
        exact ⟨ordinary, fun same => other (Option.some.inj same)⟩
      rw [kept] at out
      cases out

/-- In an empty scope every name is free. -/
theorem refusals_eventsFor_empty (target : TypeRef) :
    ((∅ : Scope).eventsFor target).filter Event.isRefusal = [] := by
  refine refusals_eventsFor_of_not_shutsOut ?_
  have held : ((∅ : Scope).add target).holder? target.simpleName = some target.canonicalName := by
    rw [holder?_add, holder?_empty, if_pos rfl]
    exact ite_self _
  simp [shutsOut, held]

theorem refusals_of_isImplicit (scope : Scope)
    (implicit : ∀ target ∈ targets, target.isImplicit = true) :
    (scope.mentionEach targets).events.filter Event.isRefusal = [] := by
  induction targets generalizing scope with
  | nil => rfl
  | cons target rest ih =>
      have kept := (scope.add target).shutsOut_of_isImplicit (implicit target List.mem_cons_self)
      rw [events_mentionEach_cons, List.filter_append, refusals_eventsFor_of_not_shutsOut kept,
        ih (scope.add target) fun ref later => implicit ref (List.mem_cons_of_mem target later)]
      rfl

namespace Remembers

/-- A type that is spelled out was refused its simple name for the sake of one that asked before. -/
theorem refusals_eventsFor_of_shutsOut (remembers : scope.Remembers history)
    (out : (scope.add target).shutsOut target = true) :
    ∃ event, (scope.eventsFor target).filter Event.isRefusal = [event] ∧
      Refuses history target event := by
  obtain ⟨ordinary, away⟩ := shutsOut_eq_true_iff.mp out
  rw [holder?_add, if_neg ordinary] at away
  have logs := scope.logs_eventsFor target
  generalize scope.eventsFor target = events at logs ⊢
  cases logs with
  | takenOver implicit => exact absurd implicit ordinary
  | bound _ free =>
      rw [free, if_pos rfl] at away
      exact absurd rfl away
  | confirmed _ held =>
      rw [held] at away
      exact absurd rfl away
  | refused _ held different =>
      rw [remembers.holder] at held
      obtain ⟨other, inside, named, rfl⟩ := History.exists_of_holder?_eq_some held
      exact ⟨_, rfl, other, inside, named, different, rfl⟩

/-- Once all implicit types have asked, a type is spelled out at the end of a run exactly if it was
right after its mention. -/
theorem shutsOut_mentionEach (remembers : scope.Remembers history)
    (claimed : History.Claimed history (target :: targets)) :
    (scope.mentionEach (target :: targets)).value.2.shutsOut target =
      (scope.add target).shutsOut target := by
  have next := remembers.add target
  have asked : target ∈ history ++ [target] := List.mem_append_right history List.mem_cons_self
  rw [Bool.eq_iff_iff, shutsOut_eq_true_iff, shutsOut_eq_true_iff, value_mentionEach_cons,
    (next.mentionEach targets).holder, next.holder]
  exact and_congr_right fun ordinary =>
    not_congr (History.holds_append_iff claimed.tail asked ordinary)

/-- Once all implicit types have asked, the refusals of a run are those of the types that are spelled
out at its end, in the order of the types. -/
theorem refusals_mentionEach (remembers : scope.Remembers history)
    (claimed : History.Claimed history targets) :
    List.Forall₂ (Refuses (history ++ targets))
      (targets.filter (scope.mentionEach targets).value.2.shutsOut)
      ((scope.mentionEach targets).events.filter Event.isRefusal) := by
  induction targets generalizing scope history with
  | nil => exact .nil
  | cons target rest ih =>
      have later := ih (remembers.add target) claimed.tail
      have settled := remembers.shutsOut_mentionEach claimed
      rw [List.append_assoc, List.singleton_append] at later
      rw [events_mentionEach_cons, List.filter_append, List.filter_cons, settled]
      cases out : (scope.add target).shutsOut target with
      | false =>
          rw [refusals_eventsFor_of_not_shutsOut out, if_neg Bool.false_ne_true]
          exact later
      | true =>
          obtain ⟨event, only, other, inside, refusal⟩ :=
            remembers.refusals_eventsFor_of_shutsOut out
          rw [only, if_pos rfl]
          exact .cons ⟨other, List.mem_append_left _ inside, refusal⟩ later

end Remembers

end Refusals

end Scope

end Companion
