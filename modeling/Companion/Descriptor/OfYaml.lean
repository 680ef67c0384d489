import Companion.Descriptor.Draft
import Companion.Yaml.Document

/-!
# Descriptors from YAML

A descriptor and each of its properties is a mapping. Every scalar is taken as the text that it
holds, whatever its tag and style; only a description can be null. Keys that are no fields are
passed over, and no field may come twice.
-/

namespace Companion.Descriptor.YamlReader

open Yaml (Node Marks Octets)

/-- Reads parts of a document, or fails; the state is how often aliases may still be followed. -/
abbrev Reading (α : Type) : Type :=
  ReaderT Yaml.Document (StateT Nat Option) α

def resolve (node : Node) : Reading Node := do
  match node with
  | .alias anchor =>
      match ← get with
      | 0 => failure
      | left + 1 =>
          set left
          let some target := (← read).target? anchor | failure
          pure target
  | _ => pure node

def text (node : Node) : Reading String := do
  match ← resolve node with
  | .scalar _ _ text => pure text
  | _ => failure

def isNullWord (text : String) : Bool :=
  text = "~" || text = "null" || text = "Null" || text = "NULL"

def nullTag : Octets :=
  Yaml.octetsOf "tag:yaml.org,2002:null"

/-- Reads a text or nothing. Nothing is written as a null word or left out, without quotes; a null
word may be tagged as such. -/
def optionalText (node : Node) : Reading (Option String) := do
  match ← resolve node with
  | .scalar marks .plain text =>
      match marks.tag with
      | none => pure (if text = "" ∨ isNullWord text then none else some text)
      | some tag =>
          if tag ≠ nullTag then pure (some text)
          else if isNullWord text then pure none
          else failure
  | .scalar _ .marked text => pure (some text)
  | _ => failure

def localTag? (marks : Marks) : Option String := do
  match ← marks.tag with
  | 0x21 :: rest =>
      String.fromUTF8? ⟨(if rest = [] then [0x21] else rest).toArray⟩
  | _ => none

/-- Reads a variant: the text of a scalar, or the name in its tag if it holds nothing else. -/
def kind (node : Node) : Reading Kind := do
  match ← resolve node with
  | .scalar marks style text =>
      match localTag? marks with
      | some name =>
          if style = .plain ∧ (text = "" ∨ isNullWord text) then liftM (Kind.ofTag? name)
          else failure
      | none => liftM (Kind.ofTag? text)
  | _ => failure

/-- Reads a list, given how its items are read. What is left out is an empty list. -/
def list {α : Type} (item : Node → Reading α) (node : Node) : Reading (List α) := do
  match ← resolve node with
  | .sequence _ items => items.mapM item
  | .scalar _ .plain "" => pure []
  | _ => failure

def typeRef (node : Node) : Reading TypeRef := do
  match TypeRef.parse (← text node) with
  | .ok ref => pure ref
  | .error _ => failure

def propertyField (draft : Property.Draft) (field : Property.Field) (node : Node) :
    Reading Property.Draft :=
  match field with
  | .name => do
      let name ← text node
      pure { draft with name := some name }
  | .type => do
      let type ← typeRef node
      pure { draft with type := some type }
  | .description => do
      let description ← optionalText node
      pure { draft with description := some description }

def propertyEntry (draft : Property.Draft) (entry : Node × Node) : Reading Property.Draft := do
  match Property.Field.ofKey? (← text entry.1) with
  | none => pure draft
  | some field => if draft.has field then failure else propertyField draft field entry.2

def property (node : Node) : Reading Property := do
  match ← resolve node with
  | .mapping _ entries =>
      let draft ← entries.foldlM propertyEntry {}
      liftM draft.finish.toOption
  | _ => failure

def descriptorField (draft : Descriptor.Draft) (field : Descriptor.Field) (node : Node) :
    Reading Descriptor.Draft :=
  match field with
  | .name => do
      let name ← text node
      pure { draft with name := some name }
  | .qualifiedName => do
      let qualifiedName ← text node
      pure { draft with qualifiedName := some qualifiedName }
  | .capabilities => do
      let capabilities ← list text node
      pure { draft with capabilities := some capabilities }
  | .kind => do
      let kind ← kind node
      pure { draft with kind := some kind }
  | .properties => do
      let properties ← list property node
      pure { draft with properties := some properties }
  | .description => do
      let description ← optionalText node
      pure { draft with description := some description }

def descriptorEntry (draft : Descriptor.Draft) (entry : Node × Node) :
    Reading Descriptor.Draft := do
  match Descriptor.Field.ofKey? (← text entry.1) with
  | none => pure draft
  | some field => if draft.has field then failure else descriptorField draft field entry.2

def descriptor (node : Node) : Reading Descriptor := do
  match ← resolve node with
  | .mapping _ entries =>
      let draft ← entries.foldlM descriptorEntry {}
      liftM draft.finish.toOption
  | _ => failure

end Companion.Descriptor.YamlReader

namespace Companion

def Descriptor.ofYamlText (text : String) : Option Descriptor := do
  let document ← Yaml.Document.parse? text
  let reading := (Descriptor.YamlReader.descriptor document.root).run document
  let (descriptor, _) ← reading.run document.aliasLimit
  some descriptor

end Companion
