import Companion.Descriptor.Basic

/-!
# Log events

Every event that the program logs, with its level, the component that it is attributed to, and its
text.
-/

namespace Companion

/-- How important an event is; the later, the more important. -/
inductive Level where
  | trace
  | debug
  | info
  | warn
  | error
deriving DecidableEq, Repr

namespace Level

def rank : Level → Nat
  | .trace => 0
  | .debug => 1
  | .info => 2
  | .warn => 3
  | .error => 4

def name : Level → String
  | .trace => "TRACE"
  | .debug => "DEBUG"
  | .info => "INFO"
  | .warn => "WARN"
  | .error => "ERROR"

end Level

inductive Event where
  | validated (qualifiedName : String)
  | acceptability (qualifiedName : String) (kind : Kind) (acceptable : Bool)
  | skipped (qualifiedName : String)
  | rendering (qualifiedName template : String)
  | boundImplicit (simple canonical : String)
  | bound (simple canonical : String)
  | qualified (simple holder canonical : String)
  | loaded (qualifiedName : String) (capabilities : Nat)
  | generated (path : String)
  | notCandidate (qualifiedName : String)
deriving DecidableEq, Repr

namespace Event

def level : Event → Level
  | .validated _ => .trace
  | .acceptability _ _ _ => .debug
  | .skipped _ => .debug
  | .rendering _ _ => .debug
  | .boundImplicit _ _ => .trace
  | .bound _ _ => .trace
  | .qualified _ _ _ => .debug
  | .loaded _ _ => .debug
  | .generated _ => .info
  | .notCandidate _ => .info

/-- The component that an event is attributed to in detailed logs. -/
def target : Event → String
  | .validated _ => "entigen_core::types"
  | .acceptability _ _ _ => "entigen_codegen::generator"
  | .skipped _ => "entigen_codegen::generator"
  | .rendering _ _ => "entigen_codegen::generator"
  | .boundImplicit _ _ => "entigen_codegen::import_table"
  | .bound _ _ => "entigen_codegen::import_table"
  | .qualified _ _ _ => "entigen_codegen::import_table"
  | .loaded _ _ => "entigen"
  | .generated _ => "entigen"
  | .notCandidate _ => "entigen"

def message : Event → String
  | .validated qualifiedName => s!"validated descriptor '{qualifiedName}'"
  | .acceptability qualifiedName kind acceptable =>
      let kind := kind.label
      s!"'{qualifiedName}' ({kind}) acceptable: {acceptable}"
  | .skipped qualifiedName => s!"skipping '{qualifiedName}': not an entity candidate"
  | .rendering qualifiedName template =>
      s!"rendering '{qualifiedName}' with template '{template}'"
  | .boundImplicit simple canonical => s!"binding implicit '{simple}' -> '{canonical}'"
  | .bound simple canonical => s!"binding '{simple}' -> '{canonical}'"
  | .qualified simple holder canonical =>
      s!"'{simple}' already bound to '{holder}', qualifying '{canonical}'"
  | .loaded qualifiedName capabilities =>
      s!"loaded '{qualifiedName}' with {capabilities} capabilities"
  | .generated path => s!"Generated {path}"
  | .notCandidate qualifiedName =>
      s!"'{qualifiedName}' is not an entity candidate, nothing generated"

end Event

end Companion
