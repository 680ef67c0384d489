import Companion.Command.Arguments
import Companion.Generation
import Companion.Host.Load
import Companion.Host.Save
import Companion.Text.Line

/-!
# Running commands

Each command loads a descriptor and prints or writes its answer. A type that gets no companion is no
failure: the log says so, and nothing is written.
-/

namespace Companion

inductive CommandError where
  | load (error : LoadError)
  | settings (error : SettingsError)
  | generate (qualifiedName : String) (error : GenerateError)
  | save (error : SaveError)
deriving DecidableEq, Repr

namespace CommandError

def message : CommandError → String
  | .load error => error.message
  | .settings error => error.message
  | .generate qualifiedName _ => s!"Failed to generate entity for {qualifiedName}"
  | .save error => error.message

/-- What is behind the error, if it is one of this program's own. The text hangs below a heading. -/
def cause? : CommandError → Option String
  | .generate _ error => some (String.ofList (Text.hang error.report.message.toList))
  | _ => none

end CommandError

def Host.logTraced {m : Type → Type} [Monad m] [Host m] {α : Type} (traced : Traced α) : m α := do
  Host.logAll traced.events
  pure traced.value

namespace Command

variable {m : Type → Type} [Monad m] [Host m]

def runCheck (d : Descriptor) : m Unit := do
  let answer ← Host.logTraced d.decideCompanion
  Host.print (toString answer ++ "\n")

def runUnitName (d : Descriptor) : m Unit :=
  Host.print (d.companionName ++ "\n")

def runGenerate (d : Descriptor) (output : Option String) (settings : Settings) :
    m (Except CommandError Unit) := do
  match ← Host.logTraced ((Template.entity settings).generate d).run with
  | .error error => pure (.error (.generate d.qualifiedName error))
  | .ok source =>
      if source = "" then
        Host.log (.notCandidate d.qualifiedName)
        pure (.ok ())
      else
        match output with
        | none =>
            Host.print source
            pure (.ok ())
        | some directory =>
            match ← saveUnit directory d.companionName source with
            | .error error => pure (.error (.save error))
            | .ok _ => pure (.ok ())

def withDescriptor (input : String) (next : Descriptor → m (Except CommandError Unit)) :
    m (Except CommandError Unit) := do
  match ← Descriptor.load input with
  | .error error => pure (.error (.load error))
  | .ok d => next d

def run : Command → m (Except CommandError Unit)
  | .check input =>
      withDescriptor input fun d => do
        runCheck d
        pure (.ok ())
  | .unitName input =>
      withDescriptor input fun d => do
        runUnitName d
        pure (.ok ())
  | .generate input output file =>
      withDescriptor input fun d => do
        match ← Settings.load file with
        | .error error => pure (.error (.settings error))
        | .ok settings => runGenerate d output settings

end Command

def exitCode : Except CommandError Unit → Nat
  | .ok () => 0
  | .error _ => 1

def usageExitCode : Nat :=
  2

end Companion
