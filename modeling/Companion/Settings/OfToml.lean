import Companion.Settings.Draft
import Companion.Toml.Document

/-!
# Settings from a settings file

Each line of the file gives a value to one setting; lines for anything else are refused.
-/

namespace Companion.Settings

def Draft.readEntry (draft : Draft) (entry : String × Toml.Value) : Option Draft := do
  let field ← Field.ofKey? entry.1
  match field, entry.2 with
  | .includeDocs, .truth value => some { draft with includeDocs := some value }
  | .generateAccessors, .truth value => some { draft with generateAccessors := some value }
  | .indentSize, .integer (.ofNat value) => some { draft with indentSize := some value }
  | .header, .text value => some { draft with header := some (some value) }
  | _, _ => none

def ofToml (text : String) : Option Settings := do
  let entries ← Toml.parse text
  let draft ← entries.foldlM Draft.readEntry {}
  pure draft.finish

end Companion.Settings
