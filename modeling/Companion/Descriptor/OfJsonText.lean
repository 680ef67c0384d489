import Companion.Descriptor.OfJson
import Companion.Json.Skip

/-!
# Descriptors straight from JSON text

A descriptor file is read from left to right, and the first thing that is wrong is reported: a
fault in the text, or a value that does not fit where it stands. What nobody asks for is passed
over and only has to be well-formed.
-/

namespace Companion

inductive Descriptor.TextProblem where
  | malformed (fault : Json.Fault)
  | misfit (mismatch : Mismatch)
deriving DecidableEq, Repr

namespace Descriptor.JsonReader

open Json (Fault)

abbrev Reading (α : Type) : Type :=
  StateT (List Char) (Except TextProblem) α

/-- A step that only looks at the form of the text. -/
def formal {α : Type} (reader : Json.Reader α) : Reading α := fun text =>
  match reader text with
  | .ok result => .ok result
  | .error fault => .error (.malformed fault)

/-- A step that only judges what was read. -/
def judge {α : Type} : Except Mismatch α → Reading α
  | .ok value => pure value
  | .error mismatch => throw (.misfit mismatch)

def fault {α : Type} (fault : Fault) : Reading α :=
  throw (.malformed fault)

def peekValue : Reading Char := do
  formal Json.skipBlanks
  match ← formal Json.Reader.peek with
  | some c => pure c
  | none => fault .endOfText

/--
Refuses the value that begins here. Its text is read first if it is a single word, number or
string; of an array or an object only the opening mark is looked at.
-/
def refuseValue {α : Type} (wanted : Wanted) : Reading α := do
  let c ← peekValue
  let found ←
    match c with
    | 'n' => do
        formal (Json.readWord "null".toList)
        pure .null
    | 't' => do
        formal (Json.readWord "true".toList)
        pure (.bool true)
    | 'f' => do
        formal (Json.readWord "false".toList)
        pure (.bool false)
    | '"' => do
        formal Json.Reader.advance
        .string <$> formal Json.readString
    | '[' => pure .sequence
    | '{' => pure .map
    | _ =>
        if c = '-' ∨ c.isDigit then .number <$> formal Json.readNumber else fault .unexpected
  judge (.error (.wrongType found wanted))

def text : Reading String := do
  if (← peekValue) = '"' then
    formal Json.Reader.advance
    formal Json.readString
  else refuseValue .text

def memberName : Reading String := do
  if (← peekValue) = '"' then
    formal Json.Reader.advance
    formal Json.readString
  else fault .unexpected

def optionalText : Reading (Option String) := do
  if (← peekValue) = 'n' then
    formal (Json.readWord "null".toList)
    pure none
  else some <$> text

def nothing : Reading Unit := do
  if (← peekValue) = 'n' then formal (Json.readWord "null".toList)
  else refuseValue .nothing

/-- Whether another element follows in an array. The comma before it is passed over, the closing
mark is not. -/
def hasElement (isFirst : Bool) : Reading Bool := do
  let c ← peekValue
  if c = ']' then pure false
  else if isFirst then pure true
  else if c = ',' then
    formal Json.Reader.advance
    if (← peekValue) = ']' then fault .unexpected else pure true
  else fault .unexpected

def close (closing : Char) : Reading Unit := do
  formal Json.skipBlanks
  formal (Json.readWord [closing])

def elements {α : Type} (item : Reading α) (isFirst : Bool) : Nat → Reading (List α)
  | 0 => fault .endOfText
  | most + 1 => do
      if ← hasElement isFirst then
        let element ← item
        (element :: ·) <$> elements item false most
      else pure []

def list {α : Type} (item : Reading α) : Reading (List α) := do
  if (← peekValue) = '[' then
    formal Json.Reader.advance
    let items ← elements item true ((← get).length + 1)
    close ']'
    pure items
  else refuseValue .list

/-- Whether another member follows in an object. The opening quote of its name is passed over, the
closing mark of the object is not. -/
def hasMember (isFirst : Bool) : Reading Bool := do
  let c ← peekValue
  if c = '}' then pure false
  else
    let c ←
      if isFirst then pure c
      else if c = ',' then do
        formal Json.Reader.advance
        peekValue
      else fault .unexpected
    if c = '"' then
      formal Json.Reader.advance
      pure true
    else fault .unexpected

def members {δ : Type} (member : δ → String → Reading δ) (isFirst : Bool) (draft : δ) :
    Nat → Reading δ
  | 0 => fault .endOfText
  | most + 1 => do
      if ← hasMember isFirst then
        let name ← formal Json.readString
        let draft ← member draft name
        members member false draft most
      else pure draft

/-- Reads the elements of an array into a draft as the given fields; also counts them. -/
def fields {δ φ : Type} (field : δ → φ → Reading δ) (draft : δ) (count : Nat) :
    List φ → Reading (δ × Nat)
  | [] => pure (draft, count)
  | next :: rest => do
      if ← hasElement (count = 0) then
        let draft ← field draft next
        fields field draft (count + 1) rest
      else pure (draft, count)

def memberValue {α : Type} (value : Reading α) : Reading α := do
  formal Json.readColon
  value

/-- Reads a variant: its tag, or an object whose only member has the tag for its name. -/
def kind : Reading Kind := do
  match ← peekValue with
  | '"' => judge (Kind.ofName (← text))
  | '{' =>
      formal Json.Reader.advance
      let kind ← judge (Kind.ofName (← memberName))
      memberValue nothing
      close '}'
      pure kind
  | _ => fault .unexpected

def typeRef : Reading TypeRef := do
  judge (TypeRef.ofName (← text))

def propertyField (draft : Property.Draft) (field : Property.Field) : Reading Property.Draft :=
  match field with
  | .name => do
      let name ← text
      pure { draft with name := some name }
  | .type => do
      let type ← typeRef
      pure { draft with type := some type }
  | .description => do
      let description ← optionalText
      pure { draft with description := some description }

def propertyMember (draft : Property.Draft) (name : String) : Reading Property.Draft :=
  match Property.Field.ofKey? name with
  | none => do
      memberValue (formal Json.skip)
      pure draft
  | some field =>
      if draft.has field then judge (.error (.duplicateField field.key))
      else memberValue (propertyField draft field)

def property : Reading Property := do
  match ← peekValue with
  | '{' =>
      formal Json.Reader.advance
      let draft ← members propertyMember true {} ((← get).length + 1)
      let property ← judge draft.finish
      close '}'
      pure property
  | '[' =>
      formal Json.Reader.advance
      let (draft, count) ← fields propertyField {} 0 Property.Field.all
      if count < 2 then judge (.error (.wrongLength count .propertyItems))
      let property ← judge draft.finish
      close ']'
      pure property
  | _ => refuseValue .property

def descriptorField (draft : Descriptor.Draft) (field : Descriptor.Field) :
    Reading Descriptor.Draft :=
  match field with
  | .name => do
      let name ← text
      pure { draft with name := some name }
  | .qualifiedName => do
      let qualifiedName ← text
      pure { draft with qualifiedName := some qualifiedName }
  | .capabilities => do
      let capabilities ← list text
      pure { draft with capabilities := some capabilities }
  | .kind => do
      let kind ← kind
      pure { draft with kind := some kind }
  | .properties => do
      let properties ← list property
      pure { draft with properties := some properties }
  | .description => do
      let description ← optionalText
      pure { draft with description := some description }

def descriptorMember (draft : Descriptor.Draft) (name : String) : Reading Descriptor.Draft :=
  match Descriptor.Field.ofKey? name with
  | none => do
      memberValue (formal Json.skip)
      pure draft
  | some field =>
      if draft.has field then judge (.error (.duplicateField field.key))
      else memberValue (descriptorField draft field)

def descriptor : Reading Descriptor := do
  match ← peekValue with
  | '{' =>
      formal Json.Reader.advance
      let draft ← members descriptorMember true {} ((← get).length + 1)
      let descriptor ← judge draft.finish
      close '}'
      pure descriptor
  | '[' =>
      formal Json.Reader.advance
      let (draft, count) ← fields descriptorField {} 0 Descriptor.Field.all
      if count < 2 then judge (.error (.wrongLength count .descriptorItems))
      let descriptor ← judge draft.finish
      close ']'
      pure descriptor
  | _ => refuseValue .descriptor

end Descriptor.JsonReader

def Descriptor.ofJsonText (text : String) : Except Descriptor.TextProblem Descriptor := do
  let (descriptor, rest) ← Descriptor.JsonReader.descriptor text.toList
  let _ ← Descriptor.JsonReader.formal Json.readEnd rest
  pure descriptor

end Companion
