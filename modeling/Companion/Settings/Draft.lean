import Companion.Settings.Basic

/-!
# Settings that are being read

Every setting has a default, so that a draft can be finished at any time.
-/

namespace Companion.Settings

inductive Field where
  | includeDocs
  | generateAccessors
  | indentSize
  | header
deriving DecidableEq, Repr

namespace Field

def all : List Field :=
  [.includeDocs, .generateAccessors, .indentSize, .header]

def key : Field → String
  | .includeDocs => "include_docs"
  | .generateAccessors => "generate_accessors"
  | .indentSize => "indent_size"
  | .header => "header"

def ofKey? (key : String) : Option Field :=
  all.find? fun field => field.key = key

theorem ofKey?_key (field : Field) : ofKey? field.key = some field := by
  cases field <;> decide

end Field

structure Draft where
  includeDocs : Option Bool := none
  generateAccessors : Option Bool := none
  indentSize : Option Nat := none
  header : Option (Option String) := none
deriving DecidableEq, Repr

namespace Draft

def has (draft : Draft) : Field → Bool
  | .includeDocs => draft.includeDocs.isSome
  | .generateAccessors => draft.generateAccessors.isSome
  | .indentSize => draft.indentSize.isSome
  | .header => draft.header.isSome

/-- The settings, with the default for each one that was not read. -/
def finish (draft : Draft) : Settings :=
  let defaults : Settings := {}
  { includeDocs := draft.includeDocs.getD defaults.includeDocs
    generateAccessors := draft.generateAccessors.getD defaults.generateAccessors
    indentSize := draft.indentSize.getD defaults.indentSize
    header := draft.header.getD defaults.header }

end Draft

end Companion.Settings
