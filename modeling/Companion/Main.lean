import Companion.Command.Log
import Companion.Command.Run

/-!
# The command line program

Runs a command on the machine at hand: files and output are the system's, and the log goes to the
standard error stream.
-/

namespace Companion

abbrev Console (α : Type) : Type :=
  ReaderT LogView IO α

def attempt {α : Type} (action : IO α) : IO (Option α) := do
  match ← action.toBaseIO with
  | .ok value => pure (some value)
  | .error _ => pure none

instance : Host Console where
  readFile path := liftM (attempt (IO.FS.readBinFile path))
  makeDirectories path := do
    if path = "" then pure true
    else return (← liftM (attempt (IO.FS.createDirAll path))).isSome
  writeFile path content := do
    return (← liftM (attempt (IO.FS.writeBinFile path content))).isSome
  log event := do
    let view ← read
    if view.shows event then liftM (IO.eprintln (view.entry event))
  print text := liftM (IO.print text)

def showError (error : CommandError) : IO Unit := do
  IO.eprintln ("Error: " ++ error.message)
  match error.cause? with
  | some cause => IO.eprintln ("\nCaused by:\n    " ++ cause)
  | none => pure ()

def usage : String :=
  "Usage: entigen [-v|--verbose] [-d|--debug] check|unit-name|generate --input <INPUT> " ++
    "[--output <OUTPUT>] [--config <CONFIG>]"

end Companion

open Companion in
def main (arguments : List String) : IO UInt32 := do
  match Invocation.parse (← IO.getEnv "ENTIGEN_CONFIG") arguments with
  | none =>
      IO.eprintln usage
      pure usageExitCode.toUInt32
  | some invocation =>
      let view := LogView.ofInvocation (← IO.getEnv "RUST_LOG") invocation
      let result ← (invocation.command.run : Console _).run view
      match result with
      | .error error => showError error
      | .ok () => pure ()
      pure (exitCode result).toUInt32
