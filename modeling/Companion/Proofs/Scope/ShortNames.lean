import Companion.Proofs.Scope.History
import Companion.Proofs.TypeRef.Parts

/-!
# What a simple name is bound to after a mention

After a type was mentioned its simple name is bound, either to the type itself or to another type
that asked before. Outside the default package the text of the mention tells which: the simple name
in the first case and the canonical name in the second. In the default package there is only one
name to write, so the text tells nothing.
-/

namespace Companion

namespace History

/-- Whatever a simple name stands for is a type of the history with that simple name. -/
theorem exists_of_holder?_eq_some {history : List TypeRef} {simpleName canonicalName : String}
    (held : holder? history simpleName = some canonicalName) :
    ∃ ref ∈ history, ref.simpleName = simpleName ∧ ref.canonicalName = canonicalName := by
  obtain ⟨ref, found, same⟩ := Option.map_eq_some_iff.mp held
  rcases Option.or_eq_some_iff.mp found with last | ⟨_, first⟩
  · obtain ⟨inside, _, named⟩ := of_lastImplicit?_eq_some last
    exact ⟨ref, inside, named, same⟩
  · obtain ⟨inside, named⟩ := of_first?_eq_some first
    exact ⟨ref, inside, named, same⟩

end History

namespace Scope

/-- The simple name of a type is bound to another type that was mentioned before. -/
def HeldByAnother (scope : Scope) (history : List TypeRef) (target : TypeRef) : Prop :=
  ∃ other ∈ history, other.simpleName = target.simpleName ∧
    other.canonicalName ≠ target.canonicalName ∧
    scope.holder? target.simpleName = some other.canonicalName

namespace Remembers

variable {scope : Scope} {history : List TypeRef}

/-- Right after its mention, the simple name of a type belongs to the type or to an earlier one. -/
theorem holder?_add_self (remembers : scope.Remembers history) (target : TypeRef) :
    (scope.add target).holder? target.simpleName = some target.canonicalName ∨
      (scope.add target).HeldByAnother history target := by
  have bound : (History.holder? (history ++ [target]) target.simpleName).isSome = true := by
    rw [History.isSome_holder?_iff]
    exact List.mem_map_of_mem (List.mem_append_right history List.mem_cons_self)
  obtain ⟨canonicalName, held⟩ := Option.isSome_iff_exists.mp bound
  obtain ⟨ref, inside, named, rfl⟩ := History.exists_of_holder?_eq_some held
  rw [← (remembers.add target).holder] at held
  by_cases own : ref.canonicalName = target.canonicalName
  · left
    rw [held, own]
  · right
    rcases List.mem_append.mp inside with earlier | last
    · exact ⟨ref, earlier, named, own, held⟩
    · exact absurd (congrArg TypeRef.canonicalName (List.mem_singleton.mp last)) own

end Remembers

theorem holder?_add_of_isImplicit (scope : Scope) {target : TypeRef}
    (implicit : target.isImplicit = true) :
    (scope.add target).holder? target.simpleName = some target.canonicalName := by
  rw [holder?_add, if_pos implicit, if_pos rfl]

/-- The text of a mention is the simple name where the mention leaves that name to the type. -/
theorem spelling_of_held {scope : Scope} {target : TypeRef}
    (held : (scope.add target).holder? target.simpleName = some target.canonicalName) :
    scope.spelling target = target.simpleName := by
  rw [spelling_eq, if_pos (Or.inr held)]

/-- The text of a mention is the canonical name where the mention leaves the simple name to another
type. -/
theorem spelling_of_not_held {scope : Scope} {target : TypeRef}
    (refused : (scope.add target).holder? target.simpleName ≠ some target.canonicalName) :
    scope.spelling target = target.canonicalName := by
  rw [spelling_eq, if_neg]
  rintro (implicit | held)
  · exact refused (scope.holder?_add_of_isImplicit implicit)
  · exact refused held

theorem HeldByAnother.not_held {scope : Scope} {history : List TypeRef} {target : TypeRef}
    (another : scope.HeldByAnother history target) :
    scope.holder? target.simpleName ≠ some target.canonicalName := by
  obtain ⟨other, _, _, different, held⟩ := another
  rw [held]
  exact fun same => different (Option.some.inj same)

/-- What any mention returns and leaves bound, after any mentions before it. -/
theorem binding_of_mention (history : List TypeRef) (target : TypeRef) :
    ∃ name after,
      (((∅ : Scope).mentionEach history).value.2.mention target).value = (name, after) ∧
      (name = target.simpleName →
        after.holder? target.simpleName = some target.canonicalName ∨
          (target.package = "" ∧ after.HeldByAnother history target)) ∧
      (name ≠ target.simpleName →
        name = target.canonicalName ∧ after.HeldByAnother history target) ∧
      (after.holder? target.simpleName = some target.canonicalName → name = target.simpleName) := by
  have remembers := remembers_empty.mentionEach history
  rw [List.nil_append] at remembers
  refine ⟨_, _, rfl, ?_, ?_, spelling_of_held⟩
  · intro short
    rcases remembers.holder?_add_self target with own | another
    · exact Or.inl own
    · refine Or.inr ⟨?_, another⟩
      rw [← TypeRef.canonicalName_eq_simpleName_iff, ← short]
      exact (spelling_of_not_held another.not_held).symm
  · intro long
    rcases remembers.holder?_add_self target with own | another
    · exact absurd (spelling_of_held own) long
    · exact ⟨spelling_of_not_held another.not_held, another⟩

def utilSet : TypeRef :=
  ⟨"java.util.Set", by decide⟩

def plainSet : TypeRef :=
  ⟨"Set", by decide⟩

/-- A type of the default package can be written by a name that is bound to another type. -/
theorem simple_name_bound_elsewhere :
    ∃ name after,
      (((∅ : Scope).mentionEach [utilSet]).value.2.mention plainSet).value = (name, after) ∧
      name = plainSet.simpleName ∧
      after.holder? plainSet.simpleName = some utilSet.canonicalName ∧
      after.holder? plainSet.simpleName ≠ some plainSet.canonicalName := by
  refine ⟨_, _, rfl, ?_, ?_, ?_⟩
  all_goals decide +kernel

end Scope

end Companion
