import Companion.Json.Decode
import Companion.Proofs.Json.Members

/-!
# Records as objects and as arrays

A record is read from an object member by member, or from an array, whose items are the values of
its first fields. What a value says about a field goes into a slot of the draft that no other field
uses, so that the members of an object can change places, and an array holds the same record as an
object with its items under the names of the fields. Members that belong to no field can be put into
an object without a change to the record.
-/

namespace Companion.Json

theorem bind_eq_ok_iff {α β : Type} {first : Except Mismatch α} {next : α → Except Mismatch β}
    {result : β} :
    first >>= next = .ok result ↔ ∃ found, first = .ok found ∧ next found = .ok result := by
  cases first with
  | error mismatch => exact ⟨nofun, nofun⟩
  | ok found =>
      constructor
      · intro done
        exact ⟨found, rfl, done⟩
      · rintro ⟨other, same, done⟩
        cases same
        exact done

/-- From an array of so many items or more, but of no more than there are names, a record is read
exactly if it is read from the object that has these items under the first names, in any order. -/
def FormsAgree {Record : Type} (ofJson : Value → Except Mismatch Record) (names : List String)
    (least : Nat) : Prop :=
  ∀ (values : List Value) (members : List (String × Value)) (record : Record),
    least ≤ values.length → values.length ≤ names.length → members.Perm (names.zip values) →
      (ofJson (.array values) = .ok record ↔ ofJson (.object members) = .ok record)

namespace Fields

variable {Field Draft Record : Type} {fields : Fields Field Draft Record}

theorem ofKey?_eq_none_iff {name : String} :
    fields.ofKey? name = none ↔ name ∉ fields.all.map fields.key := by
  rw [List.mem_map]
  constructor
  · rintro unknown ⟨field, _, rfl⟩
    rw [fields.ofKey?_key] at unknown
    cases unknown
  · intro foreign
    cases known : fields.ofKey? name with
    | none => rfl
    | some field => exact absurd ⟨field, fields.mem_all field, fields.key_of_ofKey? known⟩ foreign

def readItems (fields : Fields Field Draft Record) (draft : Draft)
    (items : List (Field × Value)) : Except Mismatch Draft :=
  items.foldlM (fun draft item => fields.read draft item.1 item.2) draft

/-- The record that a value holds: an object with a member for each field that it is given, or an
array of no fewer than so many items, which are the values of the fields as they are declared. -/
def ofValue (fields : Fields Field Draft Record) (empty : Draft) (least : Nat)
    (few wanted : Wanted) : Value → Except Mismatch Record
  | .object members => do
      let draft ← members.foldlM fields.readMember empty
      fields.finish draft
  | .array items => do
      let draft ← fields.readItems empty (fields.all.zip items)
      if items.length < least then .error (.wrongLength items.length few)
      else if fields.all.length < items.length then
        .error (.wrongLength items.length .fewerItems)
      else fields.finish draft
  | value => value.mismatch wanted

section

variable {empty : Draft} {least : Nat} {few wanted : Wanted} {record : Record}

theorem ofValue_object_eq_ok_iff {members : List (String × Value)} :
    fields.ofValue empty least few wanted (.object members) = .ok record ↔
      ∃ draft, members.foldlM fields.readMember empty = .ok draft ∧
        fields.finish draft = .ok record := bind_eq_ok_iff

theorem ofValue_array_eq_ok_iff {items : List Value} (enough : least ≤ items.length)
    (fits : items.length ≤ fields.all.length) :
    fields.ofValue empty least few wanted (.array items) = .ok record ↔
      ∃ draft, fields.readItems empty (fields.all.zip items) = .ok draft ∧
        fields.finish draft = .ok record := by
  rw [ofValue, bind_eq_ok_iff]
  simp only [if_neg (Nat.not_lt.mpr enough), if_neg (Nat.not_lt.mpr fits)]

end

/-- The slots of a draft, one for each field: a value is decoded without a look at the draft, and
what it says is put into the slot of its field. All of them are empty at first. -/
structure Slots (fields : Fields Field Draft Record) where
  Content : Field → Type
  decode : (field : Field) → Value → Except Mismatch (Content field)
  put : (field : Field) → Content field → Draft → Draft
  read_eq : ∀ draft field value,
    fields.read draft field value = (decode field value).map fun content => put field content draft
  empty : Draft
  has_empty : ∀ field, ¬ fields.has empty field = true
  has_put : ∀ draft field content other,
    fields.has (put field content draft) other = true ↔
      other = field ∨ fields.has draft other = true
  put_comm : ∀ draft {field other : Field} content contents, field ≠ other →
    put other contents (put field content draft) = put field content (put other contents draft)

namespace Slots

/-- One member of an object leads from a draft to the next one: its name belongs to no field, or
its value goes into a slot that is still empty. -/
inductive Step (slots : fields.Slots) (draft : Draft) : String × Value → Draft → Prop
  | foreign {name : String} (value : Value) :
      fields.ofKey? name = none → Step slots draft (name, value) draft
  | filled {name : String} {field : Field} {value : Value} {content : slots.Content field} :
      fields.ofKey? name = some field → ¬ fields.has draft field = true →
        slots.decode field value = .ok content →
          Step slots draft (name, value) (slots.put field content draft)

variable {slots : fields.Slots}

theorem read_eq_ok_iff (slots : fields.Slots) {draft next : Draft} {field : Field} {value : Value} :
    fields.read draft field value = .ok next ↔
      ∃ content, slots.decode field value = .ok content ∧ slots.put field content draft = next := by
  rw [slots.read_eq]
  cases slots.decode field value with
  | error mismatch => exact ⟨nofun, nofun⟩
  | ok content =>
      constructor
      · intro read
        cases read
        exact ⟨content, rfl, rfl⟩
      · rintro ⟨other, same, rfl⟩
        cases same
        rfl

theorem readMember_eq_ok_iff (slots : fields.Slots) {draft next : Draft} {member : String × Value} :
    fields.readMember draft member = .ok next ↔ slots.Step draft member next := by
  obtain ⟨name, value⟩ := member
  constructor
  · intro run
    unfold readMember at run
    cases known : fields.ofKey? name with
    | none =>
        rw [known] at run
        cases run
        exact .foreign value known
    | some field =>
        simp only [known] at run
        by_cases held : fields.has draft field = true
        · rw [if_pos held] at run
          cases run
        · rw [if_neg held] at run
          obtain ⟨content, decoded, rfl⟩ := slots.read_eq_ok_iff.mp run
          exact .filled known held decoded
  · intro step
    cases step with
    | foreign value unknown => rw [readMember, unknown]
    | filled known empty decoded =>
        rw [readMember, known]
        simp only [if_neg empty]
        exact slots.read_eq_ok_iff.mpr ⟨_, decoded, rfl⟩

/-- Two members with different names can change places. -/
theorem Step.swap {draft middle last : Draft} {first second : String × Value}
    (apart : first.1 ≠ second.1) (one : slots.Step draft first middle)
    (two : slots.Step middle second last) :
    ∃ other, slots.Step draft second other ∧ slots.Step other first last := by
  cases one with
  | foreign value unknown => exact ⟨last, two, .foreign value unknown⟩
  | @filled name field value content known empty decoded =>
      cases two with
      | foreign value unknown =>
          exact ⟨draft, .foreign value unknown, .filled known empty decoded⟩
      | @filled next other _ contents known' empty' decoded' =>
          have different : field ≠ other := by
            rintro rfl
            exact apart ((fields.key_of_ofKey? known).symm.trans (fields.key_of_ofKey? known'))
          have free : ¬ fields.has draft other = true := fun held =>
            empty' ((slots.has_put draft field content other).mpr (Or.inr held))
          have still : ¬ fields.has (slots.put other contents draft) field = true := by
            intro held
            rcases (slots.has_put draft other contents field).mp held with same | old
            · exact different same
            · exact empty old
          refine ⟨slots.put other contents draft, .filled known' free decoded', ?_⟩
          rw [slots.put_comm draft content contents different]
          exact .filled known still decoded

theorem foldlM_readMember_cons_iff (slots : fields.Slots) {draft last : Draft}
    {member : String × Value} {rest : List (String × Value)} :
    (member :: rest).foldlM fields.readMember draft = .ok last ↔
      ∃ middle, slots.Step draft member middle ∧
        rest.foldlM fields.readMember middle = .ok last := by
  rw [List.foldlM_cons, bind_eq_ok_iff]
  simp only [slots.readMember_eq_ok_iff]

/-- Members with different names are read alike in any order. -/
theorem foldlM_readMember_of_perm (slots : fields.Slots) {members others : List (String × Value)}
    (order : members.Perm others) (distinct : (members.map Prod.fst).Nodup) {draft last : Draft}
    (run : members.foldlM fields.readMember draft = .ok last) :
    others.foldlM fields.readMember draft = .ok last := by
  induction order generalizing draft with
  | nil => exact run
  | cons member _ ih =>
      obtain ⟨middle, step, rest⟩ := slots.foldlM_readMember_cons_iff.mp run
      have later := ih (List.nodup_cons.mp distinct).2 rest
      exact slots.foldlM_readMember_cons_iff.mpr ⟨middle, step, later⟩
  | swap first second rest =>
      -- The two steps change places; without different names the second one would be refused.
      obtain ⟨middle, one, run⟩ := slots.foldlM_readMember_cons_iff.mp run
      obtain ⟨next, two, run⟩ := slots.foldlM_readMember_cons_iff.mp run
      have apart : second.1 ≠ first.1 := fun same =>
        (List.nodup_cons.mp distinct).1 (same ▸ List.mem_cons_self)
      obtain ⟨other, one', two'⟩ := one.swap apart two
      have later := slots.foldlM_readMember_cons_iff.mpr ⟨next, two', run⟩
      exact slots.foldlM_readMember_cons_iff.mpr ⟨other, one', later⟩
  | trans first _ ih ih' => exact ih' ((first.map Prod.fst).nodup distinct) (ih distinct run)

theorem foldlM_readMember_perm (slots : fields.Slots) {members others : List (String × Value)}
    (order : members.Perm others) (distinct : (members.map Prod.fst).Nodup) {draft last : Draft} :
    members.foldlM fields.readMember draft = .ok last ↔
      others.foldlM fields.readMember draft = .ok last := by
  constructor
  · exact slots.foldlM_readMember_of_perm order distinct
  · exact slots.foldlM_readMember_of_perm order.symm ((order.map Prod.fst).nodup distinct)

/-- Members for different fields that were not read yet are read like items of an array. -/
theorem foldlM_readMember_zip (slots : fields.Slots) {names : List Field} (distinct : names.Nodup)
    (values : List Value) {draft : Draft}
    (empty : ∀ field ∈ names, ¬ fields.has draft field = true) :
    ((names.map fields.key).zip values).foldlM fields.readMember draft =
      fields.readItems draft (names.zip values) := by
  induction names generalizing values draft with
  | nil => rfl
  | cons field names ih =>
      cases values with
      | nil => rfl
      | cons value values =>
          obtain ⟨once, distinct⟩ := List.nodup_cons.mp distinct
          have first : fields.readMember draft (fields.key field, value) =
              fields.read draft field value := by
            rw [readMember, fields.ofKey?_key]
            exact if_neg (empty field List.mem_cons_self)
          rw [List.map_cons, List.zip_cons_cons, List.zip_cons_cons, readItems, List.foldlM_cons,
            List.foldlM_cons, first, slots.read_eq]
          cases slots.decode field value with
          | error mismatch => rfl
          | ok content =>
              refine ih distinct values fun other inside held => ?_
              rcases (slots.has_put draft field content other).mp held with rfl | old
              · exact once inside
              · exact empty other (List.mem_cons_of_mem _ inside) old

theorem zip_names_sublist (names : List String) (values : List Value) :
    ((names.zip values).map Prod.fst).Sublist names := by
  induction names generalizing values with
  | nil => exact List.Sublist.slnil
  | cons name names ih =>
      cases values with
      | nil => exact List.nil_sublist (name :: names)
      | cons value values => exact (ih values).cons_cons name

theorem formsAgree_ofValue (slots : fields.Slots) (least : Nat) (few wanted : Wanted) :
    FormsAgree (fields.ofValue slots.empty least few wanted) (fields.all.map fields.key) least := by
  intro values members record enough fits order
  rw [List.length_map] at fits
  have named := zip_names_sublist (fields.all.map fields.key) values
  have distinct : (members.map Prod.fst).Nodup :=
    (order.map Prod.fst).symm.nodup
      (named.nodup (fields.nodup_all.map fun _ _ same => key_inj.mp same))
  rw [ofValue_array_eq_ok_iff enough fits, ofValue_object_eq_ok_iff]
  simp only [slots.foldlM_readMember_perm order distinct,
    slots.foldlM_readMember_zip fields.nodup_all values fun field _ => slots.has_empty field]

end Slots

/-! ## Members that belong to no field -/

/-- The second list of members is the first one with further members that belong to no field. The
values of fields may have changed in the given way. -/
inductive PaddedMembers (fields : Fields Field Draft Record)
    (Inside : Field → Value → Value → Prop) :
    List (String × Value) → List (String × Value) → Prop
  | nil : PaddedMembers fields Inside [] []
  | kept {members others : List (String × Value)} (member : String × Value) :
      PaddedMembers fields Inside members others →
        PaddedMembers fields Inside (member :: members) (member :: others)
  | changed {field : Field} {value other : Value} {members others : List (String × Value)} :
      Inside field value other → PaddedMembers fields Inside members others →
        PaddedMembers fields Inside
          ((fields.key field, value) :: members) ((fields.key field, other) :: others)
  | added {name : String} {members others : List (String × Value)} (value : Value) :
      name ∉ fields.all.map fields.key → PaddedMembers fields Inside members others →
        PaddedMembers fields Inside members ((name, value) :: others)

/-- The items of the second list are those of the first one. The values of fields may have changed
in the given way. -/
inductive PaddedItems (Inside : Field → Value → Value → Prop) :
    List Field → List Value → List Value → Prop
  | rest (names : List Field) (items : List Value) : PaddedItems Inside names items items
  | kept {field : Field} {names : List Field} {items others : List Value} (item : Value) :
      PaddedItems Inside names items others →
        PaddedItems Inside (field :: names) (item :: items) (item :: others)
  | changed {field : Field} {names : List Field} {value other : Value} {items others : List Value} :
      Inside field value other → PaddedItems Inside names items others →
        PaddedItems Inside (field :: names) (value :: items) (other :: others)

/-- The second value is the first one with further members that belong to no field, in its own
object or inside of the values of its fields. -/
inductive Padded (fields : Fields Field Draft Record) (Inside : Field → Value → Value → Prop) :
    Value → Value → Prop
  | same (value : Value) : Padded fields Inside value value
  | object {members others : List (String × Value)} :
      PaddedMembers fields Inside members others →
        Padded fields Inside (.object members) (.object others)
  | array {items others : List Value} : PaddedItems Inside fields.all items others →
      Padded fields Inside (.array items) (.array others)

/-- No draft shows whether a value of a field has changed in the given way. -/
def Unnoticed (fields : Fields Field Draft Record) (Inside : Field → Value → Value → Prop) : Prop :=
  ∀ {field value other}, Inside field value other →
    ∀ draft, fields.read draft field other = fields.read draft field value

section Padding

variable {Inside : Field → Value → Value → Prop}

theorem PaddedMembers.foldlM_readMember {members others : List (String × Value)}
    (padded : fields.PaddedMembers Inside members others)
    (alike : fields.Unnoticed Inside) (draft : Draft) :
    others.foldlM fields.readMember draft = members.foldlM fields.readMember draft := by
  induction padded generalizing draft with
  | nil => rfl
  | kept _ _ ih =>
      rw [List.foldlM_cons, List.foldlM_cons]
      exact bind_congr ih
  | @changed field value other _ _ inside _ ih =>
      have first : fields.readMember draft (fields.key field, other) =
          fields.readMember draft (fields.key field, value) := by
        simp only [readMember, fields.ofKey?_key, alike inside]
      rw [List.foldlM_cons, List.foldlM_cons, first]
      exact bind_congr ih
  | @added name _ _ value unknown _ ih =>
      have passed : fields.readMember draft (name, value) = .ok draft := by
        rw [readMember, ofKey?_eq_none_iff.mpr unknown]
      rw [List.foldlM_cons, passed]
      exact ih draft

theorem PaddedItems.readItems {names : List Field} {items others : List Value}
    (padded : PaddedItems Inside names items others)
    (alike : fields.Unnoticed Inside) (draft : Draft) :
    fields.readItems draft (names.zip others) = fields.readItems draft (names.zip items) := by
  induction padded generalizing draft with
  | rest => rfl
  | kept _ _ ih =>
      rw [List.zip_cons_cons, List.zip_cons_cons, Fields.readItems, Fields.readItems,
        List.foldlM_cons, List.foldlM_cons]
      exact bind_congr ih
  | changed inside _ ih =>
      rw [List.zip_cons_cons, List.zip_cons_cons, Fields.readItems, Fields.readItems,
        List.foldlM_cons, List.foldlM_cons, alike inside]
      exact bind_congr ih

theorem PaddedItems.length_eq {names : List Field} {items others : List Value}
    (padded : PaddedItems Inside names items others) : others.length = items.length := by
  induction padded with
  | rest => rfl
  | kept _ _ ih => exact congrArg Nat.succ ih
  | changed _ _ ih => exact congrArg Nat.succ ih

/-- What belongs to no field says nothing about the record. -/
theorem Padded.ofValue_eq {value other : Value} (padded : fields.Padded Inside value other)
    (alike : fields.Unnoticed Inside) (empty : Draft) (least : Nat) (few wanted : Wanted) :
    fields.ofValue empty least few wanted other = fields.ofValue empty least few wanted value := by
  cases padded with
  | same => rfl
  | object padded => rw [ofValue, ofValue, padded.foldlM_readMember alike]
  | array padded => rw [ofValue, ofValue, padded.readItems alike, padded.length_eq]

end Padding

end Fields

end Companion.Json
