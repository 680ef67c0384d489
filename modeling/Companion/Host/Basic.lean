import Companion.Event

/-!
# Hosts

What a command needs from the machine that it runs on: files, a log and a place to print to.
-/

namespace Companion

class Host (m : Type → Type) where
  /-- The content of a file, unless it cannot be read. -/
  readFile : String → m (Option ByteArray)
  /-- Makes a directory and those above it; tells whether it is there now. -/
  makeDirectories : String → m Bool
  /-- Replaces the content of a file; tells whether this was possible. -/
  writeFile : String → ByteArray → m Bool
  /-- Logs an event. -/
  log : Event → m Unit
  /-- Prints a text. -/
  print : String → m Unit

namespace Host

/-- The text in a file, unless the file cannot be read or holds no text. -/
def readText {m : Type → Type} [Monad m] [Host m] (path : String) : m (Option String) := do
  match ← readFile path with
  | some content => pure (String.fromUTF8? content)
  | none => pure none

def logAll {m : Type → Type} [Monad m] [Host m] : List Event → m Unit
  | [] => pure ()
  | event :: rest => do
      log event
      logAll rest

end Host

end Companion
