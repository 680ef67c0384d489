import Companion.Proofs.Descriptor.Forms
import Companion.Settings.OfJson

/-!
# Objects and arrays decode alike

Settings are read as descriptors and properties are, except that an object may not have a member
that belongs to no setting. With this, the objects and the arrays of all three kinds of records are
compared.
-/

namespace Companion

open Json (Value)

namespace Settings

def fields : Json.Fields Field Draft Settings where
  all := Field.all
  key := Field.key
  ofKey? := Field.ofKey?
  has := Draft.has
  read := Draft.read
  finish draft := .ok draft.finish
  mem_all field := by cases field <;> decide
  nodup_all := by decide
  ofKey?_key := Field.ofKey?_key
  key_of_ofKey? known := by simpa using List.find?_some known

def Field.Content : Field → Type
  | .includeDocs => Bool
  | .generateAccessors => Bool
  | .indentSize => Nat
  | .header => Option String

def slots : fields.Slots where
  Content := Field.Content
  decode
    | .includeDocs, value => value.truth
    | .generateAccessors, value => value.truth
    | .indentSize, value => value.size
    | .header, value => value.optionalText
  put
    | .includeDocs, includeDocs, draft => { draft with includeDocs := some includeDocs }
    | .generateAccessors, accessors, draft => { draft with generateAccessors := some accessors }
    | .indentSize, size, draft => { draft with indentSize := some size }
    | .header, header, draft => { draft with header := some header }
  read_eq draft field value := by
    cases field with
    | includeDocs => cases value.truth <;> rfl
    | generateAccessors => cases value.truth <;> rfl
    | indentSize => cases value.size <;> rfl
    | header => cases value.optionalText <;> rfl
  empty := {}
  has_empty field := by cases field <;> exact nofun
  has_put draft field content other := by
    cases field <;> cases other <;>
      first | exact iff_of_true rfl (.inl rfl) | exact (or_iff_right nofun).symm
  put_comm draft field other content contents different := by
    cases field <;> cases other <;> first | rfl | exact absurd rfl different

/-- Members that belong to settings are read as members of any record. -/
theorem foldlM_readMember_of_known {members : List (String × Value)}
    (known : ∀ member ∈ members, member.1 ∈ Field.all.map Field.key) (draft : Draft) :
    members.foldlM Draft.readMember draft = members.foldlM fields.readMember draft := by
  induction members generalizing draft with
  | nil => rfl
  | cons member rest ih =>
      obtain ⟨field, _, named⟩ := List.mem_map.mp (known member List.mem_cons_self)
      have found : Field.ofKey? member.1 = some field := named ▸ Field.ofKey?_key field
      have first : Draft.readMember draft member = fields.readMember draft member := by
        unfold Draft.readMember Json.Fields.readMember
        dsimp only [fields]
        rw [found]
        rfl
      rw [List.foldlM_cons, List.foldlM_cons, first]
      exact bind_congr (ih fun other inside => known other (List.mem_cons_of_mem _ inside))

/-- A member that belongs to no setting is not overlooked, wherever it stands. -/
theorem foldlM_readMember_of_foreign {members : List (String × Value)}
    (foreign : ∃ member ∈ members, member.1 ∉ Field.all.map Field.key) (draft : Draft) :
    ∃ mismatch, members.foldlM Draft.readMember draft = .error mismatch := by
  induction members generalizing draft with
  | nil =>
      obtain ⟨_, inside, _⟩ := foreign
      cases inside
  | cons member rest ih =>
      rw [List.foldlM_cons]
      cases step : Draft.readMember draft member with
      | error mismatch => exact ⟨mismatch, rfl⟩
      | ok next =>
          obtain ⟨other, inside, unknown⟩ := foreign
          rcases List.mem_cons.mp inside with rfl | later
          · have missing : Field.ofKey? other.1 = none := fields.ofKey?_eq_none_iff.mpr unknown
            rw [Draft.readMember, missing] at step
            cases step
          · exact ih ⟨other, later, unknown⟩ next

theorem ofJson_object_of_foreign {members : List (String × Value)}
    (foreign : ∃ member ∈ members, member.1 ∉ Field.all.map Field.key) :
    ∃ mismatch, ofJson (.object members) = .error mismatch := by
  obtain ⟨mismatch, run⟩ := foldlM_readMember_of_foreign foreign {}
  refine ⟨mismatch, ?_⟩
  rw [ofJson, run]
  rfl

theorem formsAgree : Json.FormsAgree ofJson (Field.all.map Field.key) 0 := by
  intro values members record enough fits order
  have known : ∀ member ∈ members, member.1 ∈ Field.all.map Field.key := by
    intro member inside
    exact (List.of_mem_zip (order.mem_iff.mp inside)).1
  have listed : ofJson (.array values) =
      fields.ofValue {} 0 .settings .settings (.array values) := rfl
  have named : ofJson (.object members) =
      fields.ofValue {} 0 .settings .settings (.object members) := by
    rw [ofJson, foldlM_readMember_of_known known]
    rfl
  rw [listed, named]
  exact slots.formsAgree_ofValue 0 _ _ values members record enough fits order

end Settings

/-- Descriptors, properties and settings are read from an array exactly as they are read from the
object with the same values under the names of the fields. Members that belong to no field change
nothing about a descriptor or a property, also inside of the properties of a descriptor. Settings
are never read from an object with such a member. -/
theorem Json.forms_decode_alike :
    FormsAgree Descriptor.ofJson
      ["name", "fully_qualified_name", "implemented_capabilities", "kind", "properties",
        "description"] 2 ∧
    FormsAgree Property.ofJson ["name", "type", "description"] 2 ∧
    FormsAgree Settings.ofJson ["include_docs", "generate_accessors", "indent_size", "header"] 0 ∧
    (∀ value other, Descriptor.Padded value other →
      Descriptor.ofJson other = Descriptor.ofJson value) ∧
    (∀ value other, Property.Padded value other →
      Property.ofJson other = Property.ofJson value) ∧
    ∀ members : List (String × Value),
      (∃ member ∈ members,
        member.1 ∉ ["include_docs", "generate_accessors", "indent_size", "header"]) →
      ∃ mismatch, Settings.ofJson (.object members) = .error mismatch :=
  ⟨Descriptor.formsAgree, Property.formsAgree, Settings.formsAgree,
    fun _ _ => Descriptor.Padded.ofJson_eq, fun _ _ => Property.Padded.ofJson_eq,
    fun _ => Settings.ofJson_object_of_foreign⟩

namespace Json

def identifier (remarks : List (String × Value)) : Value :=
  .object (("name", .string "id") :: remarks ++ [("type", .string "Id")])

def fooItems : List Value :=
  [.string "Foo", .string "org.example.Foo", .array [], .string "other", .array [identifier []]]

/-- The same fields sorted by name, with members that belong to no field. -/
def fooMembers (remarks : List (String × Value)) : List (String × Value) :=
  ("fully_qualified_name", .string "org.example.Foo") ::
    ("implemented_capabilities", .array []) :: ("kind", .string "other") ::
    ("name", .string "Foo") :: ("properties", .array [identifier remarks]) :: remarks

theorem forms_decode_alike_foo :
    ∃ d, Descriptor.ofJson (.array fooItems) = .ok d ∧
      Descriptor.ofJson (.object (fooMembers [])) = .ok d ∧
      Descriptor.ofJson (.object (fooMembers [("since", .null)])) = .ok d ∧
      Settings.ofJson (.object [("include_docs", .bool false)]) = .ok { includeDocs := false } ∧
      ∃ mismatch, Settings.ofJson (.object [("include_docs", .bool false), ("since", .null)]) =
        .error mismatch := by
  obtain ⟨descriptor, _, settings, padded, _, refused⟩ := forms_decode_alike
  obtain ⟨d, read⟩ : ∃ d, Descriptor.ofJson (.array fooItems) = .ok d := ⟨_, rfl⟩
  have order : (fooMembers []).Perm (["name", "fully_qualified_name", "implemented_capabilities",
      "kind", "properties", "description"].zip fooItems) :=
    @List.perm_middle _ _ [_, _, _] [_]
  have named := (descriptor _ _ d (by decide) (by decide) order).mp read
  have property : Property.Padded (identifier []) (identifier [("since", .null)]) :=
    .object (.kept _ (.added .null (by decide) (.kept _ .nil)))
  have inside : Descriptor.Field.Padded .properties (.array [identifier []])
      (.array [identifier [("since", .null)]]) := .properties (.cons property .nil)
  have foreign : "since" ∉ Descriptor.fields.all.map Descriptor.fields.key := by decide
  have remarked : Descriptor.Padded (.object (fooMembers []))
      (.object (fooMembers [("since", .null)])) :=
    .object (.kept _ (.kept _ (.kept _ (.kept _ (.changed inside (.added .null foreign .nil))))))
  refine ⟨d, read, named, (padded _ _ remarked).trans named, ?_, ?_⟩
  · exact (settings [.bool false] _ _ (by decide) (by decide) (List.Perm.refl _)).mp rfl
  · exact refused _ ⟨("since", .null), List.mem_cons_of_mem _ List.mem_cons_self, by decide⟩

end Json

end Companion
