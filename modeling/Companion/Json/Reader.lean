/-!
# Reading JSON text

A reader takes something off the front of a text. It fails if the text ends too early or if
something stands in it that does not belong there.
-/

namespace Companion.Json

inductive Fault where
  | endOfText
  | unexpected
deriving DecidableEq, Repr

/-- Reads something off the front of a text. -/
abbrev Reader (α : Type) : Type :=
  StateT (List Char) (Except Fault) α

namespace Reader

def peek : Reader (Option Char) :=
  fun text => .ok (text.head?, text)

def advance : Reader Unit :=
  fun text => .ok ((), text.tail)

def next : Reader Char := fun text =>
  match text with
  | c :: rest => .ok (c, rest)
  | [] => .error .endOfText

/-- Refuses what stands here: nothing more, or something that does not belong. -/
def refuse {α : Type} : Reader α := fun text =>
  .error (if text = [] then .endOfText else .unexpected)

end Reader

def isBlank (c : Char) : Bool :=
  c = ' ' || c = '\t' || c = '\n' || c = '\r'

def skipBlanks : Reader Unit :=
  fun text => .ok ((), text.dropWhile isBlank)

def readWord : List Char → Reader Unit
  | [] => pure ()
  | expected :: word => do
      if (← Reader.next) = expected then readWord word else throw .unexpected

end Companion.Json
