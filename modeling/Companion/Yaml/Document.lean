import Companion.Yaml.Layout
import Companion.Yaml.Node

/-!
# From tokens to a document

A text is read as a stream that holds exactly one document. An anchor gets the number of different
names that were anchored before it, and a name stands for the number that it got last.
-/

namespace Companion.Yaml

structure Assembly where
  tokens : List Token
  /-- The numbers that names of anchors stand for. -/
  names : List (String × Nat) := []
  /-- The texts that handles of tags stand for. -/
  handles : List (String × Octets) := []

abbrev Assembler (α : Type) : Type :=
  StateT Assembly Option α

namespace Assembler

def peek : Assembler (Option Token) := do
  return (← get).tokens.head?

def skip : Assembler Unit :=
  modify fun state => { state with tokens := state.tokens.tail }

/-- Whether the next token is one of some given ones. Where no token is left, none is. -/
def isNext (tokens : List Token) : Assembler Bool := do
  match ← peek with
  | some token => pure (tokens.contains token)
  | none => pure false

def take (token : Token) : Assembler Bool := do
  if (← peek) = some token then
    skip
    pure true
  else pure false

/-- The handles that need no declaration. -/
def usualHandles : List (String × Octets) :=
  [("!", octetsOf "!"), ("!!", octetsOf "tag:yaml.org,2002:")]

/-- Takes the directives in front of a document. Each may come once, and only the two versions of
the language that are alike here are known. -/
def directives (versionSeen : Bool) (handles : List (String × Octets)) :
    Nat → Assembler (List (String × Octets))
  | 0 => failure
  | steps + 1 => do
      match ← peek with
      | some (.directive (.version major minor)) =>
          if versionSeen ∨ major ≠ 1 ∨ (minor ≠ 1 ∧ minor ≠ 2) then failure
          skip
          directives true handles steps
      | some (.directive (.tag handle start)) =>
          if (handles.lookup handle).isSome then failure
          skip
          directives versionSeen (handles ++ [(handle, start)]) steps
      | _ => pure handles

def resolveTag (name : TagName) : Assembler Octets := do
  match name.handle with
  | none => pure name.suffix
  | some handle =>
      let start ← liftM ((← get).handles.lookup handle)
      pure (start ++ name.suffix)

def nameAnchor (name : String) : Assembler Nat := do
  let state ← get
  let number := state.names.length
  let others := state.names.filter fun entry => entry.1 ≠ name
  set { state with names := (name, number) :: others }
  pure number

def takeAnchor : Assembler (Option String) := do
  match ← peek with
  | some (.anchor name) =>
      skip
      pure (some name)
  | _ => pure none

def takeTag : Assembler (Option TagName) := do
  match ← peek with
  | some (.tag name) =>
      skip
      pure (some name)
  | _ => pure none

def takeMarks : Assembler (Option String × Option TagName) := do
  match ← takeAnchor with
  | some anchor => return (some anchor, ← takeTag)
  | none =>
      let tag ← takeTag
      match tag with
      | some tag => return (← takeAnchor, some tag)
      | none => pure (none, none)

def emptyScalar (marks : Marks) : Node :=
  .scalar marks .plain ""

mutual

/--
Takes a node, in at most so many steps. `inBlock` allows block collections; `indentless` also allows
a sequence that is not indented.
-/
def node (inBlock indentless : Bool) : Nat → Assembler Node
  | 0 => failure
  | steps + 1 => do
      match ← peek with
      | some (.alias name) =>
          skip
          let number ← liftM ((← get).names.lookup name)
          pure (.alias number)
      | _ =>
          let (anchor, tag) ← takeMarks
          let tag ← tag.mapM resolveTag
          let anchor ← anchor.mapM nameAnchor
          let marks : Marks := { anchor, tag }
          let next ← peek
          if indentless ∧ next = some .blockEntry then
            .sequence marks <$> indentlessItems steps
          else
            match next with
            | some (.scalar style text) =>
                skip
                pure (.scalar marks style text)
            | some .flowSequenceStart =>
                skip
                .sequence marks <$> flowItems true steps
            | some .flowMappingStart =>
                skip
                .mapping marks <$> flowEntries true steps
            | some .blockSequenceStart =>
                if inBlock then
                  skip
                  .sequence marks <$> blockItems steps
                else bare marks
            | some .blockMappingStart =>
                if inBlock then
                  skip
                  .mapping marks <$> blockEntries steps
                else bare marks
            | _ => bare marks

/-- A node without content: it has to carry something. -/
def bare (marks : Marks) : Assembler Node :=
  if marks = {} then failure else pure (emptyScalar marks)

/-- Takes a node, or the empty scalar in front of some tokens. -/
def nodeUnless (tokens : List Token) (inBlock indentless : Bool) : Nat → Assembler Node
  | 0 => failure
  | steps + 1 => do
      if ← isNext tokens then pure (emptyScalar {}) else node inBlock indentless steps

def blockItems : Nat → Assembler (List Node)
  | 0 => failure
  | steps + 1 => do
      if ← take .blockEnd then pure []
      else if ← take .blockEntry then
        let item ← nodeUnless [.blockEntry, .blockEnd] true false steps
        (item :: ·) <$> blockItems steps
      else failure

def indentlessItems : Nat → Assembler (List Node)
  | 0 => failure
  | steps + 1 => do
      if ← take .blockEntry then
        let item ← nodeUnless [.blockEntry, .key, .value, .blockEnd] true false steps
        (item :: ·) <$> indentlessItems steps
      else pure []

def blockEntries : Nat → Assembler (List (Node × Node))
  | 0 => failure
  | steps + 1 => do
      if ← take .blockEnd then pure []
      else if ← take .key then
        let key ← nodeUnless [.key, .value, .blockEnd] true true steps
        let value ←
          if ← take .value then nodeUnless [.key, .value, .blockEnd] true true steps
          else pure (emptyScalar {})
        ((key, value) :: ·) <$> blockEntries steps
      else failure

def pairValue : Nat → Assembler Node
  | 0 => failure
  | steps + 1 => do
      if ← take .value then nodeUnless [.flowEntry, .flowSequenceEnd] false false steps
      else pure (emptyScalar {})

/-- Takes a pair that stands alone in a flow sequence, after the mark of its key. Where the key is
missing, the token that is found in its place is passed over. -/
def pair : Nat → Assembler Node
  | 0 => failure
  | steps + 1 => do
      let key ←
        if ← isNext [.value, .flowEntry, .flowSequenceEnd] then do
          skip
          pure (emptyScalar {})
        else node false false steps
      let value ← pairValue steps
      pure (.mapping {} [(key, value)])

def flowItems (isFirst : Bool) : Nat → Assembler (List Node)
  | 0 => failure
  | steps + 1 => do
      if ← take .flowSequenceEnd then pure []
      else
        if !isFirst then
          if !(← take .flowEntry) then failure
        if ← take .flowSequenceEnd then pure []
        else
          let item ← if ← take .key then pair steps else node false false steps
          (item :: ·) <$> flowItems false steps

def flowValue : Nat → Assembler Node
  | 0 => failure
  | steps + 1 => do
      if ← take .value then nodeUnless [.flowEntry, .flowMappingEnd] false false steps
      else pure (emptyScalar {})

/-- Takes an entry of a flow mapping. Without a mark for its key it has no value. -/
def flowEntry : Nat → Assembler (Node × Node)
  | 0 => failure
  | steps + 1 => do
      if ← take .key then
        let key ← nodeUnless [.value, .flowEntry, .flowMappingEnd] false false steps
        return (key, ← flowValue steps)
      else
        return (← node false false steps, emptyScalar {})

def flowEntries (isFirst : Bool) : Nat → Assembler (List (Node × Node))
  | 0 => failure
  | steps + 1 => do
      if ← take .flowMappingEnd then pure []
      else
        if !isFirst then
          if !(← take .flowEntry) then failure
        if ← take .flowMappingEnd then pure []
        else
          let entry ← flowEntry steps
          (entry :: ·) <$> flowEntries false steps

end

/-- Takes the content of a document after its start mark; there may be none. -/
def content (steps : Nat) : Assembler Node := do
  match ← peek with
  | none | some (.directive _) | some .documentStart | some .documentEnd =>
      pure (emptyScalar {})
  | some _ => node true false steps

/-- Takes a document: directives and a start mark, or neither of them, and a node. -/
def document (steps : Nat) : Assembler Node := do
  match ← peek with
  | none => failure
  | some (.directive _) | some .documentStart =>
      let declared ← directives false [] steps
      modify fun state => { state with handles := declared ++ usualHandles }
      if !(← take .documentStart) then failure
      content steps
  | some _ =>
      modify fun state => { state with handles := usualHandles }
      node true false steps

def finish : Assembler Unit := do
  if !(← get).tokens.all (· = .documentEnd) then failure

end Assembler

def Document.parse? (text : String) : Option Document := do
  let tokens ← tokensOf? text
  let steps := 4 * tokens.length + 8
  let (root, rest) ← (Assembler.document steps).run { tokens }
  let ((), _) ← Assembler.finish.run rest
  some (Document.ofRoot root)

end Companion.Yaml
