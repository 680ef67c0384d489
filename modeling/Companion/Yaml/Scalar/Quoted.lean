import Companion.Text.Hex
import Companion.Yaml.Scalar.Gap

/-!
# Quoted scalars

Single quotes know one escape, the doubled quote. Double quotes know escapes by letter and by code
point, and a backslash at the end of a line that joins it to the next one.
-/

namespace Companion.Yaml

def escapes : List (Char × Char) :=
  [('0', '\x00'), ('a', '\x07'), ('b', '\x08'), ('t', '\t'), ('\t', '\t'), ('n', '\n'),
    ('v', '\x0b'), ('f', '\x0c'), ('r', '\r'), ('e', '\x1b'), (' ', ' '), ('"', '"'), ('/', '/'),
    ('\\', '\\'), ('N', '\u0085'), ('_', '\u00a0'), ('L', '\u2028'), ('P', '\u2029')]

/-- The letters that begin a code point, with the number of its hexadecimal digits. -/
def codeEscapes : List (Char × Nat) :=
  [('x', 2), ('u', 4), ('U', 8)]

def scanEscape : Scan Char := do
  let some letter ← Scan.ahead 1 | failure
  Scan.skip 2
  match codeEscapes.lookup letter with
  | some count =>
      let digits := (← get).rest.take count
      if digits.length < count then failure
      Scan.skip count
      liftM (Text.hexChar? digits)
  | none => liftM (escapes.lookup letter)

inductive WordStop where
  | gap
  | quote
  | joinedLine
deriving DecidableEq

def scanQuotedWord (quote : Char) (reversed : List Char) : Nat → Scan (List Char × WordStop)
  | 0 => failure
  | steps + 1 => do
      match ← Scan.peek with
      | none => failure
      | some c =>
          if isGap c then pure (reversed.reverse, .gap)
          else if c = '\'' ∧ quote = '\'' ∧ (← Scan.ahead 1) = some '\'' then
            Scan.skip 2
            scanQuotedWord quote ('\'' :: reversed) steps
          else if c = quote then pure (reversed.reverse, .quote)
          else if c = '\\' ∧ quote = '"' then
            if (← Scan.ahead 1).any isBreak then
              Scan.skip 1
              Scan.skipBreak
              pure (reversed.reverse, .joinedLine)
            else
              let escaped ← scanEscape
              scanQuotedWord quote (escaped :: reversed) steps
          else
            Scan.skip 1
            scanQuotedWord quote (c :: reversed) steps

def scanQuotedFrom (quote : Char) (text : List Char) : Nat → Scan (List Char)
  | 0 => failure
  | steps + 1 => do
      let cursor ← get
      if cursor.isAtDocumentMark then failure
      let (word, stop) ← scanQuotedWord quote [] (cursor.rest.length + 1)
      let text := text ++ word
      if (← Scan.peek) = some quote then
        Scan.skip 1
        pure text
      else
        let gap ← Gap.read 0 { broken := stop = .joinedLine } cursor.rest.length
        scanQuotedFrom quote (text ++ gap.text) steps

def scanQuoted (quote : Char) : Scan (List Char) := do
  Scan.skip 1
  scanQuotedFrom quote [] ((← get).rest.length + 1)

end Companion.Yaml
