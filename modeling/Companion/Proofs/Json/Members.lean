import Mathlib.Data.List.Nodup
import Companion.Mismatch

/-!
# The members of objects

`canonical` rearranges the members of an object and loses none, as long as no name occurs twice. A
record is read member by member into a draft, and what has been read into the draft does not depend
on the order of the members. A `Route` describes the drafts on the way to one record; the members
that fit it can stand in any order, with any other members between them.
-/

namespace Companion.Json

namespace Value

/-- A member with a new name is put in front, between or behind the others. -/
theorem insertMember_perm {name : String} {sorted : List (String × Value)} (value : Value)
    (new : name ∉ sorted.map Prod.fst) :
    (insertMember name value sorted).Perm ((name, value) :: sorted) := by
  induction sorted with
  | nil => exact List.Perm.refl _
  | cons member rest ih =>
      obtain ⟨other, held⟩ := member
      rw [List.map_cons, List.mem_cons, not_or] at new
      obtain ⟨different, later⟩ := new
      unfold insertMember
      by_cases before : name < other
      · rw [if_pos before]
      · rw [if_neg before, if_neg different]
        exact ((ih later).cons (other, held)).trans (List.Perm.swap _ _ rest)

open List in
theorem canonicalMembers_perm {sorted members : List (String × Value)}
    (distinct : (sorted.map Prod.fst ++ members.map Prod.fst).Nodup) :
    (canonicalMembers sorted members).Perm
      (sorted ++ members.map fun member => (member.1, member.2.canonical)) := by
  induction members generalizing sorted with
  | nil => rw [canonicalMembers, List.map_nil, List.append_nil]
  | cons member rest ih =>
      obtain ⟨name, value⟩ := member
      have moved : (name :: (sorted.map Prod.fst ++ rest.map Prod.fst)).Nodup :=
        List.perm_middle.nodup distinct
      have new : name ∉ sorted.map Prod.fst := fun old =>
        (List.nodup_cons.mp moved).1 (List.mem_append_left _ old)
      have placed := insertMember_perm value.canonical new
      have still : ((insertMember name value.canonical sorted).map Prod.fst ++
          rest.map Prod.fst).Nodup :=
        ((placed.map Prod.fst).append_right _).symm.nodup moved
      rw [canonicalMembers]
      calc
        canonicalMembers (insertMember name value.canonical sorted) rest
        _ ~ insertMember name value.canonical sorted ++
              rest.map (fun member => (member.1, member.2.canonical)) := ih still
        _ ~ (name, value.canonical) :: sorted ++
              rest.map (fun member => (member.1, member.2.canonical)) := placed.append_right _
        _ ~ sorted ++ (name, value.canonical) ::
              rest.map (fun member => (member.1, member.2.canonical)) := List.perm_middle.symm

/-- An object keeps its members when they are sorted. -/
theorem canonical_object {members : List (String × Value)}
    (distinct : (members.map Prod.fst).Nodup) :
    ∃ sorted, (Value.object members).canonical = .object sorted ∧
      sorted.Perm (members.map fun member => (member.1, member.2.canonical)) := by
  refine ⟨canonicalMembers [] members, by rw [canonical], ?_⟩
  exact @canonicalMembers_perm [] members distinct

theorem canonical_array (items : List Value) :
    (Value.array items).canonical = .array (items.map canonical) := by
  rw [canonical]
  congr 1
  induction items with
  | nil => rfl
  | cons item rest ih => rw [canonicalItems, ih, List.map_cons]

end Value

/-- A record that is read from the members of an object: the names of its fields, the draft that
they are read into, and the record that a draft is finished to. -/
structure Fields (Field Draft Record : Type) where
  all : List Field
  key : Field → String
  ofKey? : String → Option Field
  has : Draft → Field → Bool
  read : Draft → Field → Value → Except Mismatch Draft
  finish : Draft → Except Mismatch Record
  mem_all : ∀ field, field ∈ all
  nodup_all : all.Nodup
  ofKey?_key : ∀ field, ofKey? (key field) = some field
  key_of_ofKey? : ∀ {name field}, ofKey? name = some field → key field = name

namespace Fields

variable {Field Draft Record : Type} {fields : Fields Field Draft Record}

theorem key_inj {first second : Field} : fields.key first = fields.key second ↔ first = second := by
  constructor
  · intro same
    have found := fields.ofKey?_key first
    rw [same, fields.ofKey?_key] at found
    exact (Option.some.inj found).symm
  · rintro rfl
    rfl

/-- The draft with one more member of an object read; members with other names are passed over. -/
def readMember (fields : Fields Field Draft Record) (draft : Draft) (member : String × Value) :
    Except Mismatch Draft :=
  match fields.ofKey? member.1 with
  | none => .ok draft
  | some field =>
      if fields.has draft field then .error (.duplicateField (fields.key field))
      else fields.read draft field member.2

/-- The members for the fields that have a value, in the order in which the fields are declared. -/
def members (fields : Fields Field Draft Record) (value? : Field → Option Value) :
    List (String × Value) :=
  fields.all.filterMap fun field => (value? field).map fun value => (fields.key field, value)

section Members

variable {value? : Field → Option Value}

theorem mem_members_iff {name : String} {value : Value} :
    (name, value) ∈ fields.members value? ↔
      ∃ field, fields.key field = name ∧ value? field = some value := by
  rw [members, List.mem_filterMap]
  constructor
  · rintro ⟨field, _, written⟩
    obtain ⟨held, present, same⟩ := Option.map_eq_some_iff.mp written
    cases same
    exact ⟨field, rfl, present⟩
  · rintro ⟨field, rfl, present⟩
    exact ⟨field, fields.mem_all field, by rw [present, Option.map_some]⟩

theorem names_members : (fields.members value?).map Prod.fst =
    (fields.all.filter fun field => (value? field).isSome).map fields.key := by
  rw [members]
  induction fields.all with
  | nil => rfl
  | cons field rest ih =>
      cases present : value? field with
      | none =>
          rw [List.filterMap_cons_none (by rw [present]; rfl),
            List.filter_cons_of_neg (by rw [present]; exact Bool.false_ne_true), ih]
      | some value =>
          rw [List.filterMap_cons_some (by rw [present]; rfl),
            List.filter_cons_of_pos (by rw [present]; rfl), List.map_cons, List.map_cons, ih]

theorem key_mem_members_iff {field : Field} :
    fields.key field ∈ (fields.members value?).map Prod.fst ↔ value? field ≠ none := by
  rw [names_members, List.mem_map_of_injective fun _ _ same => key_inj.mp same, List.mem_filter,
    Option.isSome_iff_ne_none]
  exact and_iff_right (fields.mem_all field)

theorem nodup_members : ((fields.members value?).map Prod.fst).Nodup := by
  rw [names_members]
  exact (fields.nodup_all.filter _).map fun _ _ same => key_inj.mp same

/-- Sorting the members of a record leaves each of them where it can be found. -/
theorem canonical_members (fields : Fields Field Draft Record) (value? : Field → Option Value) :
    ∃ sorted, (Value.object (fields.members value?)).canonical = .object sorted ∧
      sorted.Perm (fields.members fun field => (value? field).map Value.canonical) := by
  obtain ⟨sorted, same, order⟩ :=
    Value.canonical_object (nodup_members : ((fields.members value?).map Prod.fst).Nodup)
  refine ⟨sorted, same, ?_⟩
  have inner : (fields.members value?).map (fun member => (member.1, member.2.canonical)) =
      fields.members fun field => (value? field).map Value.canonical := by
    rw [members, members, List.map_filterMap]
    congr 1
    funext field
    cases value? field <;> rfl
  rw [← inner]
  exact order

end Members

/-- The way to a record: the drafts in which some of its fields have been read, the values from which
each field of it is read, and the fields that it can do without. -/
structure Route (fields : Fields Field Draft Record) (record : Record) where
  draft : List Field → Draft
  Reads : Field → Value → Prop
  Omissible : Field → Prop
  has_draft : ∀ done field, fields.has (draft done) field = true ↔ field ∈ done
  read_draft : ∀ done field value, Reads field value →
    fields.read (draft done) field value = .ok (draft (field :: done))
  finish_draft : ∀ done, (∀ field, field ∈ done ∨ Omissible field) →
    fields.finish (draft done) = .ok record

namespace Route

variable {record : Record}

/-- One member with a value for a new field leads on to the next draft. -/
theorem readMember_draft (route : fields.Route record) {done : List Field} {field : Field}
    {value : Value} (new : field ∉ done) (reads : route.Reads field value) :
    fields.readMember (route.draft done) (fields.key field, value) =
      .ok (route.draft (field :: done)) := by
  have missing : ¬ fields.has (route.draft done) field = true := fun held =>
    new ((route.has_draft done field).mp held)
  rw [readMember, fields.ofKey?_key]
  simp only [if_neg missing]
  exact route.read_draft done field value reads

/-- Members that fit the route lead along it, whatever their order. -/
theorem foldlM_readMember (route : fields.Route record) {done : List Field}
    {members : List (String × Value)} (distinct : (members.map Prod.fst).Nodup)
    (reads : ∀ field value, (fields.key field, value) ∈ members → route.Reads field value)
    (new : ∀ field ∈ done, fields.key field ∉ members.map Prod.fst) :
    ∃ all, members.foldlM fields.readMember (route.draft done) = .ok (route.draft all) ∧
      ∀ field, field ∈ all ↔ field ∈ done ∨ fields.key field ∈ members.map Prod.fst := by
  induction members generalizing done with
  | nil => exact ⟨done, rfl, fun field => by simp⟩
  | cons member rest ih =>
      obtain ⟨name, value⟩ := member
      obtain ⟨once, apart⟩ := List.nodup_cons.mp distinct
      have later (field : Field) (other : Value) (inside : (fields.key field, other) ∈ rest) :=
        reads field other (List.mem_cons_of_mem _ inside)
      cases known : fields.ofKey? name with
      | none =>
          have step : fields.readMember (route.draft done) (name, value) =
              .ok (route.draft done) := by
            rw [readMember, known]
          have foreign (field : Field) : fields.key field ≠ name := by
            rintro rfl
            rw [fields.ofKey?_key] at known
            cases known
          obtain ⟨all, run, reached⟩ := ih apart later fun field inside again =>
            new field inside (List.mem_cons_of_mem _ again)
          refine ⟨all, ?_, fun field => ?_⟩
          · rw [List.foldlM_cons, step]
            exact run
          · rw [reached, List.map_cons, List.mem_cons]
            simp only [foreign, false_or]
      | some field =>
          obtain rfl := fields.key_of_ofKey? known
          have fresh : field ∉ done := fun held => new field held List.mem_cons_self
          have step := route.readMember_draft fresh (reads field value List.mem_cons_self)
          have unread : ∀ other ∈ field :: done, fields.key other ∉ rest.map Prod.fst := by
            intro other inside again
            rcases List.mem_cons.mp inside with rfl | old
            · exact once again
            · exact new other old (List.mem_cons_of_mem _ again)
          obtain ⟨all, run, reached⟩ := ih apart later unread
          refine ⟨all, ?_, fun other => ?_⟩
          · rw [List.foldlM_cons, step]
            exact run
          · rw [reached, List.mem_cons, List.map_cons, List.mem_cons, key_inj, or_assoc,
              or_left_comm]

/-- A record is read from members for its fields in any order, if the values fit the route and only
fields are left out that it can do without. -/
theorem read_members (route : fields.Route record) {value? : Field → Option Value}
    (reads : ∀ field value, value? field = some value → route.Reads field value)
    (omits : ∀ field, value? field = none → route.Omissible field)
    {members : List (String × Value)} (order : members.Perm (fields.members value?)) :
    (members.foldlM fields.readMember (route.draft [])).bind fields.finish = .ok record := by
  have names := order.map Prod.fst
  have fits : ∀ field value, (fields.key field, value) ∈ members → route.Reads field value := by
    intro field value inside
    obtain ⟨other, same, present⟩ := mem_members_iff.mp (order.mem_iff.mp inside)
    exact reads field value (key_inj.mp same ▸ present)
  obtain ⟨all, run, reached⟩ :=
    route.foldlM_readMember (names.symm.nodup nodup_members) fits
      (fun _ none => absurd none List.not_mem_nil)
  have complete : ∀ field, field ∈ all ∨ route.Omissible field := by
    intro field
    by_cases absent : value? field = none
    · exact Or.inr (omits field absent)
    · exact Or.inl ((reached field).mpr
        (Or.inr (names.mem_iff.mpr (key_mem_members_iff.mpr absent))))
  rw [run]
  exact route.finish_draft all complete

end Route

end Fields

end Companion.Json
