import Companion.Proofs.Scope.History
import Companion.Proofs.Scope.Imports

/-!
# Every type is bound under its own simple name

A mention binds the canonical name of a type to the simple name of that type, or binds nothing. So
whatever a scope holds after any mentions is the canonical name of a type and stands under the
simple name of that type. No type holds two simple names then, and the imports of the scope, which
list every canonical name once, are as many as the simple names that are bound.
-/

namespace Companion.Scope

/-- Whatever the scope holds is the canonical name of a type, bound to that type's simple name. -/
def KeepsOwnNames (scope : Scope) : Prop :=
  ∀ simpleName canonicalName, scope.holder? simpleName = some canonicalName →
    ∃ ref, TypeRef.parse canonicalName = .ok ref ∧ ref.simpleName = simpleName

/-- What is bound after a mention is the type that was mentioned or was bound before. -/
theorem of_holder?_add {scope : Scope} {target : TypeRef} {simpleName canonicalName : String}
    (held : (scope.add target).holder? simpleName = some canonicalName) :
    (target.simpleName = simpleName ∧ target.canonicalName = canonicalName) ∨
      scope.holder? simpleName = some canonicalName := by
  rw [holder?_add] at held
  split at held
  · split at held
    · next own => exact Or.inl ⟨own, Option.some.inj held⟩
    · exact Or.inr held
  · rcases Option.or_eq_some_iff.mp held with before | ⟨_, now⟩
    · exact Or.inr before
    · split at now
      · next own => exact Or.inl ⟨own, Option.some.inj now⟩
      · cases now

theorem keepsOwnNames_empty : (∅ : Scope).KeepsOwnNames := by
  intro simpleName canonicalName held
  rw [holder?_empty] at held
  cases held

namespace KeepsOwnNames

variable {scope : Scope}

theorem add (keeps : scope.KeepsOwnNames) (target : TypeRef) :
    (scope.add target).KeepsOwnNames := by
  intro simpleName canonicalName held
  rcases of_holder?_add held with ⟨own, rfl⟩ | before
  · exact ⟨target, target.parse_canonicalName, own⟩
  · exact keeps simpleName canonicalName before

theorem mentionEach (keeps : scope.KeepsOwnNames) (targets : List TypeRef) :
    (scope.mentionEach targets).value.2.KeepsOwnNames := by
  induction targets generalizing scope with
  | nil => exact keeps
  | cons target rest ih => exact ih (keeps.add target)

theorem eq_of_holder?_eq_some (keeps : scope.KeepsOwnNames) {a b canonicalName : String}
    (heldByA : scope.holder? a = some canonicalName)
    (heldByB : scope.holder? b = some canonicalName) : a = b := by
  obtain ⟨ref, parsed, rfl⟩ := keeps a canonicalName heldByA
  obtain ⟨other, parsedAgain, rfl⟩ := keeps b canonicalName heldByB
  cases Except.ok.inj (parsed.symm.trans parsedAgain)
  rfl

/-- The entries of the scope have distinct simple names, and so distinct canonical names. -/
theorem nodup_values (keeps : scope.KeepsOwnNames) : scope.holders.values.Nodup := by
  rw [values_holders, List.nodup_iff_pairwise_ne, List.pairwise_map]
  refine List.Pairwise.imp_of_mem ?_ scope.holders.distinct_keys_toList
  intro a b aInside bInside distinct same
  have heldByA : scope.holder? a.1 = some a.2 :=
    Std.ExtTreeMap.mem_toList_iff_getElem?_eq_some.mp aInside
  have heldByB : scope.holder? b.1 = some b.2 :=
    Std.ExtTreeMap.mem_toList_iff_getElem?_eq_some.mp bInside
  rw [← same] at heldByB
  exact distinct (Std.compare_eq_iff_eq.mpr (keeps.eq_of_holder?_eq_some heldByA heldByB))

/-- There is one import for every simple name that is bound. -/
theorem length_imports (keeps : scope.KeepsOwnNames) : scope.imports.length = scope.size := by
  have once : scope.imports.Nodup := by
    refine scope.imports_ascending.imp ?_
    rintro canonicalName _ before rfl
    exact String.lt_irrefl canonicalName before
  have same : scope.imports.Perm scope.holders.values := by
    rw [List.perm_ext_iff_of_nodup once keeps.nodup_values]
    intro canonicalName
    simp [imports]
  rw [same.length_eq, values_holders, List.length_map, Std.ExtTreeMap.length_toList, size]

/-- The imports list a type exactly where it holds its own simple name. -/
theorem mem_imports_iff_holds (keeps : scope.KeepsOwnNames) (ref : TypeRef) :
    ref.canonicalName ∈ scope.imports ↔
      scope.holder? ref.simpleName = some ref.canonicalName := by
  rw [mem_imports_iff]
  constructor
  · rintro ⟨simpleName, held⟩
    obtain ⟨bound, parsed, rfl⟩ := keeps simpleName ref.canonicalName held
    cases Except.ok.inj (ref.parse_canonicalName.symm.trans parsed)
    exact held
  · exact fun held => ⟨ref.simpleName, held⟩

end KeepsOwnNames

/-- What any run of mentions leaves bound: canonical names of types, each under its own simple name
and so each under one only, and listed in ascending order as the imports. -/
theorem bindings_of_mentionEach (targets : List TypeRef) :
    ∃ texts scope, ((∅ : Scope).mentionEach targets).value = (texts, scope) ∧
      (∀ simpleName canonicalName, scope.holder? simpleName = some canonicalName →
        ∃ ref, TypeRef.parse canonicalName = .ok ref ∧ ref.simpleName = simpleName) ∧
      (∀ a b canonicalName, scope.holder? a = some canonicalName →
        scope.holder? b = some canonicalName → a = b) ∧
      scope.imports.Pairwise (· < ·) ∧
      (∀ canonicalName, canonicalName ∈ scope.imports ↔
        ∃ simpleName, scope.holder? simpleName = some canonicalName) ∧
      scope.imports.length = scope.size := by
  have keeps := keepsOwnNames_empty.mentionEach targets
  refine ⟨_, _, rfl, keeps, ?_, imports_ascending _, mem_imports_iff _, keeps.length_imports⟩
  intro a b canonicalName heldByA heldByB
  exact keeps.eq_of_holder?_eq_some heldByA heldByB

end Companion.Scope
