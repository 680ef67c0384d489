import Companion.Json.Numeral
import Companion.Json.Text

/-!
# Passing over values in JSON text

A value that nobody asks for only has to be written correctly. Its numbers may be of any size, but
a number has to be complete before the text ends.
-/

namespace Companion.Json

/-- Passes over a number; one that breaks off at the end of the text does not belong there. -/
def skipNumeral : Reader Unit := fun text =>
  match readNumeral text with
  | .ok (_, rest) => .ok ((), rest)
  | .error _ => .error .unexpected

def readColon : Reader Unit := do
  skipBlanks
  readWord [':']

inductive Continuation where
  | more
  | close
deriving DecidableEq, Repr

def readContinuation (closing : Char) : Reader Continuation := do
  skipBlanks
  let c ← Reader.next
  if c = ',' then pure .more
  else if c = closing then pure .close
  else throw .unexpected

/-- Whether a container ends here, before its first element; passes over the closing mark. -/
def readEmptyEnd (closing : Char) : Reader Bool := do
  skipBlanks
  if (← Reader.peek) = some closing then
    Reader.advance
    pure true
  else pure false

mutual

/-- Passes over a value that is nested at most so deep. -/
def skipValue : Nat → Reader Unit
  | 0 => Reader.refuse
  | depth + 1 => do
      skipBlanks
      match ← Reader.peek with
      | some 'n' => readWord "null".toList
      | some 't' => readWord "true".toList
      | some 'f' => readWord "false".toList
      | some '"' =>
          Reader.advance
          skipString
      | some '[' =>
          Reader.advance
          if !(← readEmptyEnd ']') then skipItems depth
      | some '{' =>
          Reader.advance
          if !(← readEmptyEnd '}') then skipMembers depth
      | some c => if c = '-' ∨ c.isDigit then skipNumeral else throw .unexpected
      | none => throw .endOfText

def skipItems : Nat → Reader Unit
  | 0 => Reader.refuse
  | depth + 1 => do
      skipValue depth
      match ← readContinuation ']' with
      | .more => skipItems depth
      | .close => pure ()

def skipMembers : Nat → Reader Unit
  | 0 => Reader.refuse
  | depth + 1 => do
      skipBlanks
      readWord ['"']
      skipString
      readColon
      skipValue depth
      match ← readContinuation '}' with
      | .more => skipMembers depth
      | .close => pure ()

end

def skip : Reader Unit :=
  fun text => skipValue (2 * text.length + 2) text

def readEnd : Reader Unit := do
  skipBlanks
  if (← Reader.peek).isSome then throw .unexpected

end Companion.Json
