import Companion.Scope
import Mathlib.Data.Finset.Card
import Mathlib.Data.Finset.Dedup

/-!
# What a scope remembers

A history is the list of the types that asked a fresh scope for their simple names, oldest first.
Two policies share the scope: the last type that is visible without an import holds a simple name
against everybody, and without such a type the first one to ask holds it. `Remembers` says that a
scope agrees with this description of its history. One mention keeps it, and so does a run of
mentions of any length.
-/

namespace Companion

namespace History

/-- The last type with a simple name among those that are visible without an import. -/
def lastImplicit? (history : List TypeRef) (simpleName : String) : Option TypeRef :=
  history.reverse.find? fun ref => ref.isImplicit && ref.simpleName = simpleName

def first? (history : List TypeRef) (simpleName : String) : Option TypeRef :=
  history.find? fun ref => ref.simpleName = simpleName

/-- The canonical name that a simple name stands for after some types have asked for it. -/
def holder? (history : List TypeRef) (simpleName : String) : Option String :=
  ((lastImplicit? history simpleName).or (first? history simpleName)).map TypeRef.canonicalName

/-- The text of the type that asked last, where the history includes it. -/
def spelling (history : List TypeRef) (target : TypeRef) : String :=
  if target.isImplicit ∨ holder? history target.simpleName = some target.canonicalName then
    target.simpleName
  else
    target.canonicalName

theorem first?_append (earlier later : List TypeRef) (simpleName : String) :
    first? (earlier ++ later) simpleName =
      (first? earlier simpleName).or (first? later simpleName) :=
  List.find?_append

theorem lastImplicit?_append (earlier later : List TypeRef) (simpleName : String) :
    lastImplicit? (earlier ++ later) simpleName =
      (lastImplicit? later simpleName).or (lastImplicit? earlier simpleName) := by
  simp only [lastImplicit?, List.reverse_append, List.find?_append]

theorem first?_eq_none_iff (history : List TypeRef) (simpleName : String) :
    first? history simpleName = none ↔ ∀ ref ∈ history, ref.simpleName ≠ simpleName := by
  simp [first?]

theorem lastImplicit?_eq_none_iff (history : List TypeRef) (simpleName : String) :
    lastImplicit? history simpleName = none ↔
      ∀ ref ∈ history, ref.isImplicit = true → ref.simpleName ≠ simpleName := by
  simp [lastImplicit?]

theorem lastImplicit?_ne_none {history : List TypeRef} {ref : TypeRef} (inside : ref ∈ history)
    (implicit : ref.isImplicit = true) : lastImplicit? history ref.simpleName ≠ none :=
  fun missing => (lastImplicit?_eq_none_iff _ _).mp missing ref inside implicit rfl

theorem of_first?_eq_some {history : List TypeRef} {simpleName : String} {ref : TypeRef}
    (found : first? history simpleName = some ref) :
    ref ∈ history ∧ ref.simpleName = simpleName :=
  ⟨List.mem_of_find?_eq_some found, by simpa using List.find?_some found⟩

theorem of_lastImplicit?_eq_some {history : List TypeRef} {simpleName : String} {ref : TypeRef}
    (found : lastImplicit? history simpleName = some ref) :
    ref ∈ history ∧ ref.isImplicit = true ∧ ref.simpleName = simpleName := by
  have inside := List.mem_of_find?_eq_some found
  have passed := List.find?_some found
  exact ⟨List.mem_reverse.mp inside, by simpa using passed⟩

/-- One more type changes the holder of its own simple name only, and only if it is implicit or
the name was free. -/
theorem holder?_concat (history : List TypeRef) (target : TypeRef) (simpleName : String) :
    holder? (history ++ [target]) simpleName =
      if target.isImplicit then
        if target.simpleName = simpleName then some target.canonicalName
        else holder? history simpleName
      else
        (holder? history simpleName).or
          (if target.simpleName = simpleName then some target.canonicalName else none) := by
  rw [holder?, lastImplicit?_append, first?_append]
  by_cases implicit : target.isImplicit = true
  · by_cases same : target.simpleName = simpleName
    · simp [lastImplicit?, implicit, same]
    · simp [lastImplicit?, first?, holder?, implicit, same]
  · by_cases same : target.simpleName = simpleName
    · simp [lastImplicit?, first?, holder?, implicit, same, Option.map_or]
    · simp [lastImplicit?, first?, holder?, implicit, same]

/-- Exactly the simple names that were asked for stand for something. -/
theorem isSome_holder?_iff (history : List TypeRef) (simpleName : String) :
    (holder? history simpleName).isSome = true ↔ simpleName ∈ history.map TypeRef.simpleName := by
  simp only [holder?, Option.isSome_map, Option.isSome_or, Bool.or_eq_true, List.mem_map]
  constructor
  · rintro (found | found)
    · obtain ⟨ref, found⟩ := Option.isSome_iff_exists.mp found
      obtain ⟨inside, _, named⟩ := of_lastImplicit?_eq_some found
      exact ⟨ref, inside, named⟩
    · obtain ⟨ref, found⟩ := Option.isSome_iff_exists.mp found
      exact ⟨ref, of_first?_eq_some found⟩
  · rintro ⟨ref, inside, named⟩
    refine Or.inr (Option.isSome_iff_ne_none.mpr fun missing => ?_)
    exact (first?_eq_none_iff history simpleName).mp missing ref inside named

end History

namespace Scope

theorem holder?_add (scope : Scope) (target : TypeRef) (simpleName : String) :
    (scope.add target).holder? simpleName =
      if target.isImplicit then
        if target.simpleName = simpleName then some target.canonicalName
        else scope.holder? simpleName
      else
        (scope.holder? simpleName).or
          (if target.simpleName = simpleName then some target.canonicalName else none) := by
  by_cases implicit : target.isImplicit = true
  · simp only [add, answer, implicit, if_true, holder?_bind]
  · cases found : scope.holder? target.simpleName with
    | none =>
        simp only [add, answer, implicit, found, Bool.false_eq_true, if_false, holder?_bind]
        by_cases same : target.simpleName = simpleName
        · simp [← same, found]
        · simp [same]
    | some holder =>
        have unchanged : scope.add target = scope := by
          by_cases own : holder = target.canonicalName <;> simp [add, answer, implicit, found, own]
        rw [unchanged]
        by_cases same : target.simpleName = simpleName
        · simp [implicit, ← same, found]
        · simp [implicit, same]

/-- A type is written by its simple name if it takes the name over or holds it afterwards. -/
theorem spelling_eq (scope : Scope) (target : TypeRef) :
    scope.spelling target =
      if target.isImplicit ∨
          (scope.add target).holder? target.simpleName = some target.canonicalName then
        target.simpleName
      else
        target.canonicalName := by
  rw [holder?_add]
  by_cases implicit : target.isImplicit = true
  · simp [spelling, answer, implicit]
  · cases found : scope.holder? target.simpleName with
    | none => simp [spelling, answer, implicit, found]
    | some holder =>
        by_cases own : holder = target.canonicalName <;>
          simp [spelling, answer, implicit, found, own]

theorem mem_holders_iff (scope : Scope) (simpleName : String) :
    simpleName ∈ scope.holders ↔ (scope.holder? simpleName).isSome = true := by
  rw [holder?, Std.ExtTreeMap.isSome_getElem?_iff_mem]

/-- The scope grows by one name if the name was free. -/
theorem size_add (scope : Scope) (target : TypeRef) :
    (scope.add target).size =
      if (scope.holder? target.simpleName).isSome then scope.size else scope.size + 1 := by
  have size_bind (canonicalName : String) :
      (scope.bind target.simpleName canonicalName).size =
        if (scope.holder? target.simpleName).isSome then scope.size else scope.size + 1 := by
    rw [size, bind, Std.ExtTreeMap.size_insert]
    simp only [Std.ExtTreeMap.contains_iff_mem, mem_holders_iff, size]
  by_cases implicit : target.isImplicit = true
  · simp only [add, answer, implicit, if_true]
    exact size_bind target.canonicalName
  · cases found : scope.holder? target.simpleName with
    | none =>
        simp only [add, answer, implicit, found, Bool.false_eq_true, if_false]
        rw [size_bind, found]
    | some holder =>
        by_cases own : holder = target.canonicalName <;> simp [add, answer, implicit, found, own]

/-- The scope agrees with the description of its history. -/
structure Remembers (scope : Scope) (history : List TypeRef) : Prop where
  holder : ∀ simpleName, scope.holder? simpleName = History.holder? history simpleName
  size : scope.size = (history.map TypeRef.simpleName).toFinset.card

theorem remembers_empty : (∅ : Scope).Remembers [] where
  holder simpleName := holder?_empty simpleName
  size := Std.ExtTreeMap.size_empty

namespace Remembers

variable {scope : Scope} {history : List TypeRef}

theorem add (remembers : scope.Remembers history) (target : TypeRef) :
    (scope.add target).Remembers (history ++ [target]) where
  holder simpleName := by
    rw [holder?_add, History.holder?_concat, remembers.holder]
  size := by
    have known : (scope.holder? target.simpleName).isSome = true ↔
        target.simpleName ∈ (history.map TypeRef.simpleName).toFinset := by
      rw [remembers.holder, History.isSome_holder?_iff, List.mem_toFinset]
    have grown : ((history ++ [target]).map TypeRef.simpleName).toFinset =
        insert target.simpleName (history.map TypeRef.simpleName).toFinset := by
      ext simpleName
      simp
    rw [size_add, remembers.size, grown]
    by_cases old : target.simpleName ∈ (history.map TypeRef.simpleName).toFinset
    · rw [if_pos (known.mpr old), Finset.insert_eq_of_mem old]
    · rw [if_neg (fun yes => old (known.mp yes)), Finset.card_insert_of_notMem old]

/-- The text of a mention can be read off the history with the mention in it. -/
theorem spelling (remembers : scope.Remembers history) (target : TypeRef) :
    scope.spelling target = History.spelling (history ++ [target]) target := by
  rw [spelling_eq, (remembers.add target).holder, History.spelling]

theorem isEmpty_iff (remembers : scope.Remembers history) :
    scope.isEmpty = true ↔ history = [] := by
  have empty : scope.isEmpty = (scope.size == 0) := Std.ExtTreeMap.isEmpty_eq_size_beq_zero
  rw [empty, remembers.size]
  simp

end Remembers

def mentionEach (scope : Scope) : List TypeRef → Traced (List String × Scope)
  | [] => pure ([], scope)
  | target :: rest => do
      let (text, scope) ← scope.mention target
      let (texts, scope) ← scope.mentionEach rest
      pure (text :: texts, scope)

theorem value_mentionEach_cons (scope : Scope) (target : TypeRef) (rest : List TypeRef) :
    (scope.mentionEach (target :: rest)).value =
      (scope.spelling target :: ((scope.add target).mentionEach rest).value.1,
        ((scope.add target).mentionEach rest).value.2) :=
  rfl

theorem Remembers.mentionEach {scope : Scope} {history : List TypeRef}
    (remembers : scope.Remembers history) (targets : List TypeRef) :
    (scope.mentionEach targets).value.2.Remembers (history ++ targets) := by
  induction targets generalizing scope history with
  | nil =>
      rw [List.append_nil]
      exact remembers
  | cons target rest ih =>
      have later := ih (remembers.add target)
      rw [List.append_assoc, List.singleton_append] at later
      exact later

/-- Each text of a run can be read off the history up to it. -/
theorem Remembers.texts {scope : Scope} {history : List TypeRef}
    (remembers : scope.Remembers history) (targets : List TypeRef) :
    (scope.mentionEach targets).value.1 =
      targets.mapIdx fun index target =>
        History.spelling (history ++ targets.take (index + 1)) target := by
  induction targets generalizing scope history with
  | nil => rfl
  | cons target rest ih =>
      rw [value_mentionEach_cons, List.mapIdx_cons, remembers.spelling, ih (remembers.add target)]
      simp only [List.append_assoc, List.singleton_append, List.take_succ_cons, List.take_zero]

/-- The scope and the texts that any run of mentions leads to. -/
theorem mentionEach_closed_form (targets : List TypeRef) :
    ∃ texts scope, ((∅ : Scope).mentionEach targets).value = (texts, scope) ∧
      (∀ simpleName, scope.holder? simpleName =
        match History.lastImplicit? targets simpleName with
        | some ref => some ref.canonicalName
        | none => (History.first? targets simpleName).map TypeRef.canonicalName) ∧
      scope.size = (targets.map TypeRef.simpleName).toFinset.card ∧
      (scope.isEmpty = true ↔ targets = []) ∧
      texts = targets.mapIdx fun index target =>
        if target.isImplicit ∨ History.holder? (targets.take (index + 1)) target.simpleName =
            some target.canonicalName then
          target.simpleName
        else
          target.canonicalName := by
  have remembers := remembers_empty.mentionEach targets
  rw [List.nil_append] at remembers
  refine ⟨_, _, rfl, ?_, remembers.size, remembers.isEmpty_iff, ?_⟩
  · intro simpleName
    rw [remembers.holder, History.holder?]
    cases History.lastImplicit? targets simpleName <;> rfl
  · exact remembers_empty.texts targets

end Scope

end Companion
