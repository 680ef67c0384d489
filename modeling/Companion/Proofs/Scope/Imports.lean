import Companion.Scope
import Std.Data.ExtTreeSet.Lemmas

/-!
# The types that a scope holds

The imports of a scope are the canonical names that some simple name stands for, in strictly
ascending order, so that each is listed once whatever the number of simple names.
-/

namespace Companion.Scope

theorem values_holders (scope : Scope) :
    scope.holders.values = scope.holders.toList.map Prod.snd := by
  have folded : scope.holders.values =
      scope.holders.foldr (fun _ canonicalName rest => canonicalName :: rest) [] := by
    obtain ⟨⟨⟨inner⟩⟩⟩ := scope
    induction inner using Quotient.ind
    rfl
  rw [folded, Std.ExtTreeMap.foldr_eq_foldr_toList]
  induction scope.holders.toList with
  | nil => rfl
  | cons entry rest ih => simp only [List.foldr_cons, List.map_cons, ih]

theorem mem_imports_iff (scope : Scope) (canonicalName : String) :
    canonicalName ∈ scope.imports ↔
      ∃ simpleName, scope.holder? simpleName = some canonicalName := by
  simp only [imports, holder?, Std.ExtTreeSet.mem_toList, Std.ExtTreeSet.mem_ofList,
    List.contains_iff_mem, values_holders, List.mem_map]
  constructor
  · rintro ⟨⟨simpleName, holder⟩, inside, rfl⟩
    exact ⟨simpleName, Std.ExtTreeMap.mem_toList_iff_getElem?_eq_some.mp inside⟩
  · rintro ⟨simpleName, held⟩
    exact ⟨(simpleName, canonicalName),
      Std.ExtTreeMap.mem_toList_iff_getElem?_eq_some.mpr held, rfl⟩

theorem imports_ascending (scope : Scope) : scope.imports.Pairwise (· < ·) := by
  have ordered := Std.ExtTreeSet.ordered_toList
    (t := Std.ExtTreeSet.ofList scope.holders.values compare)
  exact ordered.imp fun before => compareOfLessAndEq_eq_lt.mp before

end Companion.Scope
