import Companion.Settings.Draft
import Companion.Json.Decode

/-!
# Settings from JSON values

Settings are an object with named members or an array with the settings in their declared order.
No other members and no further items are allowed.
-/

namespace Companion.Settings

open Json (Value)

def Draft.read (draft : Draft) (field : Field) (value : Value) : Except Mismatch Draft :=
  match field with
  | .includeDocs => do
      let includeDocs ← value.truth
      pure { draft with includeDocs := some includeDocs }
  | .generateAccessors => do
      let generateAccessors ← value.truth
      pure { draft with generateAccessors := some generateAccessors }
  | .indentSize => do
      let indentSize ← value.size
      pure { draft with indentSize := some indentSize }
  | .header => do
      let header ← value.optionalText
      pure { draft with header := some header }

def Draft.readMember (draft : Draft) (member : String × Value) : Except Mismatch Draft :=
  match Field.ofKey? member.1 with
  | none => .error (.unknownField member.1 (Field.all.map Field.key))
  | some field =>
      if draft.has field then .error (.duplicateField field.key)
      else draft.read field member.2

def Draft.readItems (draft : Draft) (items : List (Field × Value)) : Except Mismatch Draft :=
  items.foldlM (fun draft item => draft.read item.1 item.2) draft

def ofJson : Value → Except Mismatch Settings
  | .object members => do
      let draft ← members.foldlM Draft.readMember {}
      pure draft.finish
  | .array items => do
      let draft ← Draft.readItems {} (Field.all.zip items)
      if Field.all.length < items.length then
        .error (.wrongLength items.length .fewerItems)
      else pure draft.finish
  | value => value.mismatch .settings

end Companion.Settings
