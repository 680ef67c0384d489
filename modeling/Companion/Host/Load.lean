import Companion.Descriptor.OfJsonText
import Companion.Descriptor.OfYaml
import Companion.Files.Path
import Companion.Host.Basic
import Companion.Settings.OfToml

/-!
# Loading descriptors and settings from files

A descriptor file holds YAML if its extension says so, and JSON otherwise.
-/

namespace Companion

inductive LoadError where
  | unreadable (path : String)
  | notYaml (path : String)
  | notJson (path : String) (problem : Descriptor.TextProblem)
deriving DecidableEq, Repr

def LoadError.message : LoadError → String
  | .unreadable path => s!"Failed to read descriptor {path}"
  | .notYaml path => s!"Failed to parse YAML descriptor {path}"
  | .notJson path _ => s!"Failed to parse JSON descriptor {path}"

def isYamlPath (path : String) : Bool :=
  match Path.extension? path with
  | some extension => extension = "yaml" || extension = "yml"
  | none => false

def Descriptor.ofFileText (path text : String) : Except LoadError Descriptor :=
  if isYamlPath path then
    match Descriptor.ofYamlText text with
    | some d => .ok d
    | none => .error (.notYaml path)
  else
    match Descriptor.ofJsonText text with
    | .ok d => .ok d
    | .error problem => .error (.notJson path problem)

def Descriptor.load {m : Type → Type} [Monad m] [Host m] (path : String) :
    m (Except LoadError Descriptor) := do
  match ← Host.readText path with
  | none => pure (.error (.unreadable path))
  | some text =>
      match Descriptor.ofFileText path text with
      | .error error => pure (.error error)
      | .ok d =>
          Host.log (.loaded d.qualifiedName d.capabilities.length)
          pure (.ok d)

inductive SettingsError where
  | unreadable (path : String)
  | invalid (path : String)
deriving DecidableEq, Repr

def SettingsError.message : SettingsError → String
  | .unreadable path => s!"Failed to read config {path}"
  | .invalid path => s!"Invalid config {path}"

/-- Loads settings from a file; without a file the defaults hold. -/
def Settings.load {m : Type → Type} [Monad m] [Host m] :
    Option String → m (Except SettingsError Settings)
  | none => pure (.ok {})
  | some path => do
      match ← Host.readText path with
      | none => pure (.error (.unreadable path))
      | some text =>
          match Settings.ofToml text with
          | some settings => pure (.ok settings)
          | none => pure (.error (.invalid path))

end Companion
