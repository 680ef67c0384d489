import Companion.Proofs.Scope.History
import Companion.Proofs.TypeRef.Parts

/-!
# Mentioning the same types again

A pass mentions the types of a list one by one. A second pass over the same list finds every simple
name as it leaves it: the last implicit type takes it over again, and without such a type the first
one holds it already. The texts of a pass, on the other hand, can go stale while it runs, because an
implicit type takes a name over from a type that was written by it before. They cannot once all
implicit types of the list have asked, so from the second pass on the texts are always the same.
-/

namespace Companion

namespace History

variable {history asked later targets : List TypeRef} {target : TypeRef}

/-- All implicit types among some types have asked before. -/
def Claimed (history targets : List TypeRef) : Prop :=
  ∀ ref ∈ targets, ref.isImplicit = true → ref ∈ history

theorem Claimed.append (targets : List TypeRef) : Claimed (history ++ targets) targets :=
  fun _ inside _ => List.mem_append_right history inside

theorem Claimed.tail (claimed : Claimed history (target :: targets)) :
    Claimed (history ++ [target]) targets :=
  fun ref inside implicit =>
    List.mem_append_left [target] (claimed ref (List.mem_cons_of_mem target inside) implicit)

/-- Types that ask again take no simple name away from each other. -/
theorem holder?_append_self (history targets : List TypeRef) (simpleName : String) :
    holder? (history ++ targets ++ targets) simpleName = holder? (history ++ targets) simpleName := by
  have last : lastImplicit? (history ++ targets ++ targets) simpleName =
      lastImplicit? (history ++ targets) simpleName := by
    rw [lastImplicit?_append, lastImplicit?_append, ← Option.or_assoc, Option.or_self]
  have first : first? (history ++ targets ++ targets) simpleName =
      first? (history ++ targets) simpleName := by
    rw [first?_append, first?_append, Option.or_assoc, Option.or_self]
  rw [holder?, holder?, last, first]

/-- An implicit type keeps its simple name from all others. -/
theorem holder?_ne_of_implicit (ordinary : target.isImplicit ≠ true)
    (visible : lastImplicit? history target.simpleName ≠ none) :
    holder? history target.simpleName ≠ some target.canonicalName := by
  obtain ⟨last, found⟩ := Option.ne_none_iff_exists'.mp visible
  have different :=
    TypeRef.canonicalName_ne_of_isImplicit (of_lastImplicit?_eq_some found).2.1 ordinary
  rw [holder?, found]
  exact fun same => different (Option.some.inj same)

/-- Once all implicit types have asked, every other type keeps the answer that it got. -/
theorem holds_append_iff (claimed : Claimed asked later) (inside : target ∈ asked)
    (ordinary : target.isImplicit ≠ true) :
    holder? (asked ++ later) target.simpleName = some target.canonicalName ↔
      holder? asked target.simpleName = some target.canonicalName := by
  have last := lastImplicit?_append asked later target.simpleName
  cases visible : lastImplicit? asked target.simpleName with
  | some ref =>
      -- The name is with an implicit type before and after.
      have before : lastImplicit? asked target.simpleName ≠ none := by simp [visible]
      have after : lastImplicit? (asked ++ later) target.simpleName ≠ none := by simp [last, visible]
      exact iff_of_false (holder?_ne_of_implicit ordinary after)
        (holder?_ne_of_implicit ordinary before)
  | none =>
      have silent : lastImplicit? later target.simpleName = none := by
        rw [lastImplicit?_eq_none_iff] at visible ⊢
        exact fun ref found implicit => visible ref (claimed ref found implicit) implicit
      have present : first? asked target.simpleName ≠ none := fun missing =>
        (first?_eq_none_iff _ _).mp missing target inside rfl
      obtain ⟨ref, found⟩ := Option.ne_none_iff_exists'.mp present
      rw [holder?, holder?, last, first?_append, visible, silent, found]
      rfl

/-- Once all implicit types have asked, the text of a type does not go stale. -/
theorem spelling_append (claimed : Claimed asked later) (inside : target ∈ asked) :
    spelling (asked ++ later) target = spelling asked target := by
  by_cases implicit : target.isImplicit = true
  · rw [spelling, spelling, if_pos (Or.inl implicit), if_pos (Or.inl implicit)]
  · simp only [spelling, holds_append_iff claimed inside implicit]

theorem spelling_append_self (history targets : List TypeRef) (target : TypeRef) :
    spelling (history ++ targets ++ targets) target = spelling (history ++ targets) target := by
  simp only [spelling, holder?_append_self]

end History

namespace Scope

namespace Remembers

variable {scope : Scope} {history targets : List TypeRef}

/-- Once all implicit types have asked, every text of a pass can be read off its end. -/
theorem texts_of_claimed (remembers : scope.Remembers history)
    (claimed : History.Claimed history targets) :
    (scope.mentionEach targets).value.1 =
      targets.map (History.spelling (history ++ targets)) := by
  -- The history grows by one type with each mention and is the same for all texts in the end.
  induction targets generalizing scope history with
  | nil => rfl
  | cons target rest ih =>
      have whole : history ++ target :: rest = history ++ [target] ++ rest := by
        rw [List.append_assoc, List.singleton_append]
      have asked : target ∈ history ++ [target] := List.mem_append_right history List.mem_cons_self
      rw [value_mentionEach_cons, List.map_cons, whole, ih (remembers.add target) claimed.tail,
        remembers.spelling, History.spelling_append claimed.tail asked]

/-- A second pass leaves the scope as the first one left it. -/
theorem mentionEach_again (remembers : scope.Remembers history) (targets : List TypeRef) :
    ((scope.mentionEach targets).value.2.mentionEach targets).value.2 =
      (scope.mentionEach targets).value.2 := by
  have once := remembers.mentionEach targets
  have twice := once.mentionEach targets
  apply eq_of_holder?_eq
  intro simpleName
  rw [twice.holder, once.holder, History.holder?_append_self]

/-- The texts of a second pass can be read off the end of the first one. -/
theorem texts_again (remembers : scope.Remembers history) (targets : List TypeRef) :
    ((scope.mentionEach targets).value.2.mentionEach targets).value.1 =
      targets.map (History.spelling (history ++ targets)) := by
  have once := remembers.mentionEach targets
  rw [once.texts_of_claimed (History.Claimed.append targets)]
  exact List.map_congr_left fun target _ => History.spelling_append_self history targets target

end Remembers

/-- Three passes over the same types, after any mentions. The scope is the same after each of them,
and so are the texts of the second and the third pass, which the scope at the end of the first one
decides. The texts of the first pass are the same as well if all implicit types had asked before. -/
theorem passes_of_mentionEach (history targets : List TypeRef) :
    ∃ earlier scope first once second twice third thrice,
      ((∅ : Scope).mentionEach history).value = (earlier, scope) ∧
      (scope.mentionEach targets).value = (first, once) ∧
      (once.mentionEach targets).value = (second, twice) ∧
      (twice.mentionEach targets).value = (third, thrice) ∧
      twice = once ∧ thrice = once ∧
      third = second ∧ second = targets.map (History.spelling (history ++ targets)) ∧
      ((∀ ref ∈ targets, ref.isImplicit = true → ref ∈ history) → first = second) := by
  have remembers := remembers_empty.mentionEach history
  rw [List.nil_append] at remembers
  have again := remembers.mentionEach_again targets
  have texts := remembers.texts_again targets
  refine ⟨_, _, _, _, _, _, _, _, rfl, rfl, rfl, rfl, again, ?_, ?_, texts, fun claimed => ?_⟩
  · rw [again, again]
  · rw [again]
  · rw [texts, remembers.texts_of_claimed claimed]

def staleTexts : List TypeRef :=
  ["com.example.String", "java.lang.String", "java.util.Map"].filterMap fun name =>
    (TypeRef.parse name).toOption

/-- The first text goes stale in a first pass, and does not if the implicit type has asked before. -/
theorem passes_of_staleTexts :
    ((∅ : Scope).mentionEach staleTexts).value.1 = ["String", "String", "Map"] ∧
      (∀ ref ∈ staleTexts, ref.isImplicit = true → ref ∈ [staleTexts[1]]) ∧
      ∃ scope once, ((∅ : Scope).mentionEach [staleTexts[1]]).value.2 = scope ∧
        (scope.mentionEach staleTexts).value = (["com.example.String", "String", "Map"], once) ∧
        (once.mentionEach staleTexts).value =
          (["com.example.String", "String", "Map"], once) := by
  have claimed : ∀ ref ∈ staleTexts, ref.isImplicit = true → ref ∈ [staleTexts[1]] := by decide
  have texts : staleTexts.map (History.spelling ([staleTexts[1]] ++ staleTexts)) =
      ["com.example.String", "String", "Map"] := by decide +kernel
  obtain ⟨_, scope, first, once, second, twice, _, _, before, pass, again, _, same, _, _, read,
    stable⟩ := passes_of_mentionEach [staleTexts[1]] staleTexts
  rw [read, texts] at stable
  rw [read, texts, same] at again
  rw [stable claimed] at pass
  exact ⟨by decide +kernel, claimed, scope, once, congrArg Prod.snd before, pass, again⟩

end Scope

end Companion
