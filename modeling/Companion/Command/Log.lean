import Companion.Command.Arguments
import Companion.Event
import Companion.Text.Quoted

/-!
# The log of a command

The switches of the command line decide how important an event has to be to be shown. A level in the
environment takes precedence. Control characters that could steer a terminal are shown by number.
-/

namespace Companion

structure LogView where
  /-- The least important level that is shown; nothing is shown without one. -/
  threshold : Option Level
  /-- Whether the component of an event is shown. -/
  showsTarget : Bool
deriving DecidableEq, Repr

namespace LogView

def thresholdOf? (text : String) : Option (Option Level) :=
  match String.ofList (text.toList.map Char.toLower) with
  | "off" | "0" => some none
  | "error" | "1" => some (some .error)
  | "warn" | "2" => some (some .warn)
  | "info" | "3" => some (some .info)
  | "debug" | "4" => some (some .debug)
  | "trace" | "5" => some (some .trace)
  | _ => none

def levelOf (invocation : Invocation) : Level :=
  if invocation.debug then .trace
  else if invocation.verbose then .debug
  else .info

def ofInvocation (environment : Option String) (invocation : Invocation) : LogView :=
  { threshold := (environment.bind thresholdOf?).getD (some (levelOf invocation))
    showsTarget := invocation.debug }

def shows (view : LogView) (event : Event) : Bool :=
  match view.threshold with
  | some level => level.rank ≤ event.level.rank
  | none => false

/-- A control character that could steer a terminal. -/
def steersTerminal (c : Char) : Bool :=
  c = '\x07' || c = '\x08' || c = '\x0c' || c = '\x1b' || ('\x7f' ≤ c && c ≤ '\u009f')

def shownChar (c : Char) : List Char :=
  if !steersTerminal c then [c]
  else if c ≤ '\x7f' then
    ['\\', 'x', Nat.digitChar (c.toNat / 16), Nat.digitChar (c.toNat % 16)]
  else Text.codeEscape c

def shownMessage (event : Event) : String :=
  String.ofList (event.message.toList.flatMap shownChar)

/-- The entry for an event. It takes several lines if the message does. -/
def entry (view : LogView) (event : Event) : String :=
  let message := shownMessage event
  if view.showsTarget then event.level.name ++ " " ++ event.target ++ ": " ++ message
  else event.level.name ++ " " ++ message

end LogView

end Companion
