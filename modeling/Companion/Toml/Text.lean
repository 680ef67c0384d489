import Companion.Text.Hex

/-!
# Strings in settings files

Basic strings stand in double quotes and know escapes, literal strings stand in single quotes and
do not. Either kind may run over several lines if three quotes are used; a line break right after
the opening quotes is dropped, and every line break is read as one line feed.
-/

namespace Companion.Toml

abbrev Reader (α : Type) : Type :=
  StateT (List Char) Option α

def isBlank (c : Char) : Bool :=
  c = ' ' || c = '\t'

def skipBlanks : Reader Unit :=
  fun text => some ((), text.dropWhile isBlank)

/-- A character that may stand in comments and, quotes and backslashes apart, in strings. -/
def isPlain (c : Char) : Bool :=
  c = '\t' || (' ' ≤ c && c ≠ '\x7f')

/-- The text after a line break, if it begins with one. -/
def afterBreak? : List Char → Option (List Char)
  | '\n' :: rest => some rest
  | '\r' :: '\n' :: rest => some rest
  | _ => none

def escapes : List (Char × Char) :=
  [('b', '\x08'), ('t', '\t'), ('n', '\n'), ('f', '\x0c'), ('r', '\r'), ('"', '"'), ('\\', '\\')]

def readCode (count : Nat) : Reader Char := fun text => do
  let digits := text.take count
  let c ← Text.hexChar? digits
  if digits.length = count then some (c, text.drop count) else none

def readEscape : Reader Char := fun text =>
  match text with
  | 'u' :: rest => readCode 4 rest
  | 'U' :: rest => readCode 8 rest
  | letter :: rest => (escapes.lookup letter).map fun c => (c, rest)
  | [] => none

def readBasic (reversed : List Char) : Nat → Reader String
  | 0 => fun _ => none
  | steps + 1 => fun text =>
      match text with
      | '"' :: rest => some (String.ofList reversed.reverse, rest)
      | '\\' :: rest => do
          let (c, rest) ← readEscape rest
          readBasic (c :: reversed) steps rest
      | c :: rest => if isPlain c then readBasic (c :: reversed) steps rest else none
      | [] => none

def readLiteral : Reader String := fun text =>
  let content := text.takeWhile fun c => isPlain c && c ≠ '\''
  match text.drop content.length with
  | '\'' :: rest => some (String.ofList content, rest)
  | _ => none

/-- The content and the rest at a run of quotes that ends a string: up to two quotes before the
closing three belong to the content. -/
def closeRun (quote : Char) (reversed : List Char) (text : List Char) :
    Option (String × List Char) :=
  let run := min 5 (text.takeWhile (· = quote)).length
  if 3 ≤ run then
    some (String.ofList (reversed.reverse ++ List.replicate (run - 3) quote), text.drop run)
  else none

def skipFolded : Nat → List Char → List Char
  | 0, text => text
  | steps + 1, text =>
      match afterBreak? text with
      | some rest => skipFolded steps rest
      | none =>
          match text with
          | c :: rest => if isBlank c then skipFolded steps rest else text
          | [] => []

/-- The text after a backslash that stands at the end of a line: the line break and all white space
around it are dropped. -/
def afterLineEnd? (text : List Char) : Option (List Char) :=
  (afterBreak? (text.dropWhile isBlank)).map (skipFolded text.length)

/-- Reads a string over several lines to its closing quotes, in at most so many steps. -/
def readLines (quote : Char) (reversed : List Char) : Nat → Reader String
  | 0 => fun _ => none
  | steps + 1 => fun text =>
      match closeRun quote reversed text with
      | some result => some result
      | none =>
          match afterBreak? text with
          | some rest => readLines quote ('\n' :: reversed) steps rest
          | none =>
              match text with
              | c :: rest =>
                  if c = '\\' ∧ quote = '"' then
                    match afterLineEnd? rest with
                    | some rest => readLines quote reversed steps rest
                    | none => do
                        let (c, rest) ← readEscape rest
                        readLines quote (c :: reversed) steps rest
                  else if isPlain c then readLines quote (c :: reversed) steps rest
                  else none
              | [] => none

def readMultiline (quote : Char) : Reader String := fun text =>
  readLines quote [] (text.length + 1) ((afterBreak? text).getD text)

def readSingle (quote : Char) : Reader String := fun text =>
  if quote = '"' then readBasic [] (text.length + 1) text else readLiteral text

def readText (quote : Char) : Reader String := fun text =>
  match text with
  | a :: b :: c :: rest =>
      if a = quote ∧ b = quote ∧ c = quote then readMultiline quote rest
      else if a = quote then readSingle quote (b :: c :: rest)
      else none
  | a :: rest => if a = quote then readSingle quote rest else none
  | [] => none

end Companion.Toml
