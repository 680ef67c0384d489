import Std.Data.ExtTreeMap.Lemmas
import Std.Data.ExtTreeSet.Basic
import Companion.TypeRef
import Companion.Traced

/-!
# Scopes

A scope records which type each simple name stands for within one unit. Types that are visible
without an import always take their simple name over, whoever held it. For all other types the
first one to ask for a simple name holds it, and the ones that come later are spelled out.
-/

namespace Companion

/-- The canonical names of the types that hold simple names. -/
structure Scope where
  holders : Std.ExtTreeMap String String := ∅
deriving DecidableEq

namespace Scope

instance : EmptyCollection Scope := ⟨{}⟩

def holder? (scope : Scope) (simpleName : String) : Option String :=
  scope.holders[simpleName]?

def size (scope : Scope) : Nat :=
  scope.holders.size

def isEmpty (scope : Scope) : Bool :=
  scope.holders.isEmpty

/-- The canonical names of all holders, each once and in ascending order. -/
def imports (scope : Scope) : List String :=
  (Std.ExtTreeSet.ofList scope.holders.values).toList

def bind (scope : Scope) (simpleName canonicalName : String) : Scope :=
  ⟨scope.holders.insert simpleName canonicalName⟩

@[simp] theorem holder?_empty (simpleName : String) : (∅ : Scope).holder? simpleName = none :=
  Std.ExtTreeMap.getElem?_empty

theorem holder?_bind (scope : Scope) (simpleName canonicalName other : String) :
    (scope.bind simpleName canonicalName).holder? other =
      if simpleName = other then some canonicalName else scope.holder? other := by
  simp [bind, holder?, Std.ExtTreeMap.getElem?_insert]

theorem eq_of_holder?_eq {a b : Scope}
    (same : ∀ simpleName, a.holder? simpleName = b.holder? simpleName) : a = b := by
  cases a
  cases b
  congr 1
  exact Std.ExtTreeMap.ext_getElem? fun simpleName => same simpleName

inductive Answer where
  /-- The type is visible without an import and takes the name over. -/
  | takenOver
  /-- The name was free and is now bound to the type. -/
  | bound
  /-- The name was bound to the type already. -/
  | confirmed
  /-- The name stays with another type. -/
  | refused (holder : String)
deriving DecidableEq, Repr

def answer (scope : Scope) (target : TypeRef) : Answer :=
  if target.isImplicit then .takenOver
  else
    match scope.holder? target.simpleName with
    | none => .bound
    | some holder => if holder = target.canonicalName then .confirmed else .refused holder

/-- The text by which a type is mentioned, given the scope's answer to it. -/
def spelling (scope : Scope) (target : TypeRef) : String :=
  match scope.answer target with
  | .refused _ => target.canonicalName
  | _ => target.simpleName

def add (scope : Scope) (target : TypeRef) : Scope :=
  match scope.answer target with
  | .takenOver | .bound => scope.bind target.simpleName target.canonicalName
  | .confirmed | .refused _ => scope

def eventsFor (scope : Scope) (target : TypeRef) : List Event :=
  match scope.answer target with
  | .takenOver => [.boundImplicit target.simpleName target.canonicalName]
  | .bound => [.bound target.simpleName target.canonicalName]
  | .confirmed => []
  | .refused holder => [.qualified target.simpleName holder target.canonicalName]

def mention (scope : Scope) (target : TypeRef) : Traced (String × Scope) :=
  { value := (scope.spelling target, scope.add target), events := scope.eventsFor target }

end Scope

end Companion
