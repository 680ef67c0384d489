import Companion.Toml.Text

/-!
# Flat documents

A document of lines that each give a value to a key, with comments and empty lines between them.
Values are strings, integers of 64 bits and truth values. Tables, arrays, dotted keys, fractional
numbers and dates are not read: no setting is made of them.
-/

namespace Companion.Toml

inductive Value where
  | text (value : String)
  | integer (value : Int)
  | truth (value : Bool)
deriving DecidableEq, Repr

def isBareKeyChar (c : Char) : Bool :=
  c.isAlphanum || c = '_' || c = '-'

def readKey : Reader String := fun text =>
  match text with
  | '"' :: rest => readSingle '"' rest
  | '\'' :: rest => readSingle '\'' rest
  | _ =>
      let key := text.takeWhile isBareKeyChar
      if key = [] then none else some (String.ofList key, text.drop key.length)

/-- The digits of a numeral with underscores between some of them. -/
def digitsOf? (base : Nat) (numeral : List Char) : Option (List Nat) := do
  let groups := numeral.splitOn '_'
  if groups.any (· = []) then none
  else
    let digits ← groups.flatten.mapM Text.hexValue?
    if digits.all (· < base) then some digits else none

/-- The number that decimal digits stand for; only zero begins with a zero. -/
def decimal? (numeral : List Char) : Option Nat := do
  let digits ← digitsOf? 10 numeral
  match digits with
  | 0 :: _ :: _ => none
  | _ => some (Text.valueOf 10 digits)

/-- The number that a numeral stands for: decimal with an optional sign, or with a base. -/
def integer? (numeral : List Char) : Option Int :=
  match numeral with
  | '0' :: 'x' :: rest => (digitsOf? 16 rest).map fun digits => (Text.valueOf 16 digits : Int)
  | '0' :: 'o' :: rest => (digitsOf? 8 rest).map fun digits => (Text.valueOf 8 digits : Int)
  | '0' :: 'b' :: rest => (digitsOf? 2 rest).map fun digits => (Text.valueOf 2 digits : Int)
  | '+' :: rest => (decimal? rest).map fun n => (n : Int)
  | '-' :: rest => (decimal? rest).map fun n => -(n : Int)
  | _ => (decimal? numeral).map fun n => (n : Int)

def isWordChar (c : Char) : Bool :=
  c.isAlphanum || c = '_' || c = '+' || c = '-'

def wordValue? (word : List Char) : Option Value :=
  if word = "true".toList then some (.truth true)
  else if word = "false".toList then some (.truth false)
  else do
    let value ← integer? word
    if -0x8000000000000000 ≤ value ∧ value < 0x8000000000000000 then some (.integer value) else none

def readValue : Reader Value := fun text =>
  match text with
  | '"' :: _ => do
      let (value, rest) ← readText '"' text
      pure (.text value, rest)
  | '\'' :: _ => do
      let (value, rest) ← readText '\'' text
      pure (.text value, rest)
  | _ => do
      let word := text.takeWhile isWordChar
      let value ← wordValue? word
      pure (value, text.drop word.length)

/-- Reads blanks, a comment and the end of a line or of the document. -/
def readLineEnd : Reader Unit := fun text =>
  let text := text.dropWhile isBlank
  let text := if text.head? = some '#' then text.dropWhile isPlain else text
  match text with
  | [] => some ((), [])
  | _ => (afterBreak? text).map fun rest => ((), rest)

def readEntry : Reader (String × Value) := do
  let key ← readKey
  skipBlanks
  match ← get with
  | '=' :: rest =>
      set rest
      skipBlanks
      let value ← readValue
      pure (key, value)
  | _ => failure

/-- Reads the lines of a document, in at most so many steps; no key may come twice. -/
def readLinesOf (entries : List (String × Value)) : Nat → List Char → Option (List (String × Value))
  | 0, _ => none
  | steps + 1, text =>
      match text.dropWhile isBlank with
      | [] => some entries
      | text =>
          match readLineEnd text with
          | some ((), rest) => readLinesOf entries steps rest
          | none => do
              let ((key, value), rest) ← readEntry text
              let ((), rest) ← readLineEnd rest
              if (entries.lookup key).isSome then none
              else readLinesOf (entries ++ [(key, value)]) steps rest

/-- The entries of a document; a byte order mark in front is passed over. -/
def parse (text : String) : Option (List (String × Value)) :=
  let chars := text.toList
  let chars := if chars.head? = some '\ufeff' then chars.tail else chars
  readLinesOf [] (chars.length + 1) chars

end Companion.Toml
