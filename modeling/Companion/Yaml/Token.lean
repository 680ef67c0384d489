import Companion.Yaml.Tag

/-!
# Tokens

The signs that a YAML text is made of. Indentation appears as tokens that open and close block
collections. A text is the list of its tokens.
-/

namespace Companion.Yaml

/-- How a scalar is written: without quotes or marks, or with them. -/
inductive Style where
  | plain
  | marked
deriving DecidableEq, Repr

inductive Token where
  | directive (directive : Directive)
  | documentStart
  | documentEnd
  | blockSequenceStart
  | blockMappingStart
  | blockEnd
  | flowSequenceStart
  | flowSequenceEnd
  | flowMappingStart
  | flowMappingEnd
  | blockEntry
  | flowEntry
  | key
  | value
  | alias (name : String)
  | anchor (name : String)
  | tag (name : TagName)
  | scalar (style : Style) (text : String)
deriving DecidableEq, Repr

/-- Tokens in the order in which they were found, the last one first. -/
structure TokenList where
  reversed : List Token := []
  length : Nat := 0

namespace TokenList

def push (tokens : TokenList) (token : Token) : TokenList :=
  { reversed := token :: tokens.reversed, length := tokens.length + 1 }

/-- Puts a token in front of the one with a number, counting from zero. -/
def insert (tokens : TokenList) (number : Nat) (token : Token) : TokenList :=
  { reversed := tokens.reversed.insertIdx (tokens.length - number) token
    length := tokens.length + 1 }

def toList (tokens : TokenList) : List Token :=
  tokens.reversed.reverse

end TokenList

end Companion.Yaml
