import Companion.Event

/-!
# Values with the events that led to them

A traced computation gives its value together with the events that it logged, in order.
-/

namespace Companion

structure Traced (α : Type) where
  value : α
  events : List Event := []
deriving DecidableEq

namespace Traced

instance : Monad Traced where
  pure a := { value := a }
  bind first next :=
    let second := next first.value
    { value := second.value, events := first.events ++ second.events }

instance : LawfulMonad Traced :=
  LawfulMonad.mk' Traced
    (fun traced => by cases traced; simp [Functor.map])
    (fun _ _ => by simp [Bind.bind, Pure.pure])
    (fun _ _ _ => by simp [Bind.bind, List.append_assoc])

def emit (event : Event) : Traced Unit :=
  { value := (), events := [event] }

@[simp] theorem value_bind {α β : Type} (first : Traced α) (next : α → Traced β) :
    (first >>= next).value = (next first.value).value :=
  rfl

@[simp] theorem events_bind {α β : Type} (first : Traced α) (next : α → Traced β) :
    (first >>= next).events = first.events ++ (next first.value).events :=
  rfl

end Traced

end Companion
