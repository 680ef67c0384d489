import Companion.Command.Run
import Companion.Proofs.Generation.Outcome
import Companion.Proofs.Host.Session

/-!
# What the commands come to

Once the descriptor and the settings are loaded, each command has an outcome that the tree and its
arguments decide. Only a generated companion that goes into a directory changes the tree.
-/

namespace Companion

theorem Host.run_logTraced {α : Type} (traced : Traced α) (s : Session) :
    (logTraced traced : SessionM α) s =
      (traced.value, { s with events := s.events ++ traced.events }) := by
  rw [logTraced, run_bind, run_logAll]
  rfl

namespace Command

/-- What a command on a tree comes to, with nothing logged and nothing printed before it. -/
def outcome (command : Command) (tree : Tree) : Outcome (Except CommandError Unit) :=
  SessionM.outcome command.run { tree }

section Loaded

variable {tree : Tree} {input : String} {d : Descriptor}
  (loaded : Descriptor.inTree tree input = .ok d)

include loaded

/-- A descriptor that was loaded is gone on with; only the log has become longer. -/
theorem run_withDescriptor :
    ∃ events, ∀ next : Descriptor → SessionM (Except CommandError Unit),
      withDescriptor input next { tree } = next d { tree, events } := by
  obtain ⟨events, read⟩ := Descriptor.run_load input { tree }
  refine ⟨events, fun next => ?_⟩
  rw [withDescriptor, Host.run_bind, read, loaded]
  rfl

theorem outcome_check :
    (check input).outcome tree = ⟨.ok (), toString d.hasCompanion ++ "\n", tree⟩ := by
  obtain ⟨events, passed⟩ := run_withDescriptor loaded
  rw [outcome, SessionM.outcome, run, passed, Host.run_bind, runCheck, Host.run_bind,
    Host.run_logTraced]
  exact Outcome.ext rfl String.empty_append rfl

theorem outcome_unitName :
    (unitName input).outcome tree = ⟨.ok (), d.companionName ++ "\n", tree⟩ := by
  obtain ⟨events, passed⟩ := run_withDescriptor loaded
  rw [outcome, SessionM.outcome, run, passed, Host.run_bind, runUnitName]
  exact Outcome.ext rfl String.empty_append rfl

variable {file : Option String} {settings : Settings}
  (configured : Settings.inTree tree file = .ok settings)

include configured

theorem outcome_generate (output : Option String) :
    ∃ events, (generate input output file).outcome tree =
      SessionM.outcome (runGenerate d output settings) { tree, events } := by
  obtain ⟨events, passed⟩ := run_withDescriptor loaded
  refine ⟨events, ?_⟩
  rw [outcome, SessionM.outcome, run, passed, Host.run_bind, Settings.run_load]
  simp only [configured]
  rfl

theorem outcome_generate_of_error {error : GenerateError}
    (failed : ((Template.entity settings).generate d).run.value = .error error)
    (output : Option String) :
    (generate input output file).outcome tree =
      ⟨.error (.generate d.qualifiedName error), "", tree⟩ := by
  obtain ⟨events, passed⟩ := outcome_generate loaded configured output
  rw [passed, SessionM.outcome, runGenerate, Host.run_bind, Host.run_logTraced, failed]
  rfl

theorem outcome_generate_of_empty
    (empty : ((Template.entity settings).generate d).run.value = .ok "")
    (output : Option String) :
    (generate input output file).outcome tree = ⟨.ok (), "", tree⟩ := by
  obtain ⟨events, passed⟩ := outcome_generate loaded configured output
  rw [passed, SessionM.outcome, runGenerate, Host.run_bind, Host.run_logTraced, empty]
  rfl

variable {source : String}
  (generated : ((Template.entity settings).generate d).run.value = .ok source)
  (rendered : source ≠ "")

include generated rendered

theorem outcome_generate_none :
    (generate input none file).outcome tree = ⟨.ok (), source, tree⟩ := by
  obtain ⟨events, passed⟩ := outcome_generate loaded configured none
  rw [passed, SessionM.outcome, runGenerate, Host.run_bind, Host.run_logTraced, generated]
  simp only [rendered, if_false]
  exact Outcome.ext rfl String.empty_append rfl

/-- A source that goes into a directory is saved, and the command comes to what saving comes to. -/
theorem outcome_generate_some (directory : String) :
    (∃ error after, Saves tree directory d.companionName source (.error error) after ∧
      (generate input (some directory) file).outcome tree = ⟨.error (.save error), "", after⟩) ∨
    ∃ path after, Saves tree directory d.companionName source (.ok path) after ∧
      (generate input (some directory) file).outcome tree = ⟨.ok (), "", after⟩ := by
  obtain ⟨events, passed⟩ := outcome_generate loaded configured (some directory)
  rw [passed, SessionM.outcome, runGenerate, Host.run_bind, Host.run_logTraced, generated]
  simp only [rendered, if_false]
  rw [Host.run_bind]
  obtain ⟨result, after, _, run, saves⟩ := run_saveUnit directory d.companionName source
    { tree, events := events ++ ((Template.entity settings).generate d).run.events }
  rw [run]
  cases result with
  | error error => exact Or.inl ⟨error, after, saves, rfl⟩
  | ok path => exact Or.inr ⟨path, after, saves, rfl⟩

end Loaded

end Command

end Companion
