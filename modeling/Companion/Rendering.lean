import Companion.Report
import Companion.Traced

/-!
# Renderings

To render a companion is to log what happens and to fail for one of a few reasons.
-/

namespace Companion

inductive GenerateError where
  | invalidDescriptor (defect : Descriptor.Defect)
  | invalidTypeRef (refusal : TypeRef.Refusal)
  | duplicateField (template property owner field : String)
  | refused (template message : String)
  | formatting
deriving DecidableEq, Repr

namespace GenerateError

def report : GenerateError → Report
  | .invalidDescriptor defect => defect.report
  | .invalidTypeRef refusal => refusal.report
  | .duplicateField template property owner field =>
      .template template
        s!"property '{property}' of '{owner}' maps to field '{field}' more than once"
  | .refused template message => .template template message
  | .formatting => .format "an error occurred when formatting an argument"

end GenerateError

abbrev Rendering (α : Type) : Type :=
  ExceptT GenerateError Traced α

namespace Rendering

@[simp] theorem value_lift {α : Type} (traced : Traced α) :
    (liftM traced : Rendering α).run.value = .ok traced.value :=
  rfl

theorem value_bind {α β : Type} (first : Rendering α) (next : α → Rendering β) :
    (first >>= next).run.value =
      match first.run.value with
      | .ok a => (next a).run.value
      | .error error => .error error := by
  rw [ExceptT.run_bind, Traced.value_bind]
  cases first.run.value <;> rfl

@[simp] theorem events_lift {α : Type} (traced : Traced α) :
    (liftM traced : Rendering α).run.events = traced.events :=
  List.append_nil traced.events

theorem events_lift_bind {α β : Type} (traced : Traced α) (next : α → Rendering β) :
    ((liftM traced : Rendering α) >>= next).run.events =
      traced.events ++ (next traced.value).run.events := by
  rw [ExceptT.run_bind, Traced.events_bind, events_lift]
  rfl

theorem events_bind_pure {α β : Type} (first : Rendering α) (form : α → β) :
    (first >>= fun a => pure (form a)).run.events = first.run.events := by
  rw [ExceptT.run_bind, Traced.events_bind]
  cases first.run.value <;> exact List.append_nil _

end Rendering

end Companion
