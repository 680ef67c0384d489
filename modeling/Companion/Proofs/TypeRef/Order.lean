import Companion.Proofs.Text.Order
import Companion.Proofs.TypeRef.Parts
import Mathlib.Data.List.Destutter

/-!
# The order of type references

References are ordered as their canonical names are, by code points: the start of the simple name
follows from the name, and the bytes of a name are ordered like its code points. A list of references
that is put in order and rid of equal neighbours is therefore strictly ascending and has kept every
reference once.
-/

namespace Companion

/-! ## Equal neighbours -/

section Neighbours

variable {α : Type} [DecidableEq α]

/-- What the loop has passed already is kept in reverse and not looked at again. -/
theorem eraseRepsBy_loop_eq (first : α) (rest done : List α) :
    List.eraseRepsBy.loop (· == ·) first rest done =
      done.reverse ++ rest.destutter' (· ≠ ·) first := by
  induction rest generalizing first done with
  | nil => simp [List.eraseRepsBy.loop]
  | cons next rest ih =>
      by_cases same : first = next
      · subst same
        rw [List.destutter'_cons_neg _ (not_not.mpr rfl), ← ih]
        simp only [List.eraseRepsBy.loop, beq_self_eq_true]
      · have differ : (first == next) = false := beq_eq_false_iff_ne.mpr same
        rw [List.destutter'_cons_pos _ same, List.append_cons, ← List.reverse_cons, ← ih]
        simp only [List.eraseRepsBy.loop, differ]

theorem eraseReps_eq_destutter (items : List α) : items.eraseReps = items.destutter (· ≠ ·) := by
  cases items with
  | nil => rfl
  | cons first rest => exact eraseRepsBy_loop_eq first rest []

theorem mem_destutter'_iff (first item : α) (rest : List α) :
    item ∈ rest.destutter' (· ≠ ·) first ↔ item ∈ first :: rest := by
  induction rest generalizing first with
  | nil => rfl
  | cons next rest ih =>
      by_cases same : first = next
      · subst same
        rw [List.destutter'_cons_neg _ (not_not.mpr rfl), ih]
        simp
      · rw [List.destutter'_cons_pos _ same, List.mem_cons, ih, ← List.mem_cons]

theorem mem_eraseReps_iff (item : α) (items : List α) : item ∈ items.eraseReps ↔ item ∈ items := by
  rw [eraseReps_eq_destutter]
  cases items with
  | nil => rfl
  | cons first rest => exact mem_destutter'_iff first item rest

variable [Ord α] [Std.TransOrd α] [Std.LawfulEqOrd α]

/-- An ascending list that is rid of equal neighbours is strictly ascending. -/
theorem pairwise_destutter' {first : α} {rest : List α}
    (ascending : (first :: rest).Pairwise fun a b => (compare a b).isLE) :
    (rest.destutter' (· ≠ ·) first).Pairwise fun a b => compare a b = .lt := by
  induction rest generalizing first with
  | nil => exact List.pairwise_singleton _ _
  | cons next rest ih =>
      obtain ⟨least, later⟩ := List.pairwise_cons.mp ascending
      by_cases same : first = next
      · subst same
        rw [List.destutter'_cons_neg _ (not_not.mpr rfl)]
        exact ih later
      · rw [List.destutter'_cons_pos _ same, List.pairwise_cons]
        refine ⟨?_, ih later⟩
        -- Nothing behind the next item is smaller than that item, so the first step carries over.
        intro item inside
        have start : compare first next = .lt := by
          rcases Ordering.isLE_iff_eq_lt_or_eq_eq.mp (least next List.mem_cons_self) with less | equal
          · exact less
          · exact absurd (Std.LawfulEqOrd.eq_of_compare equal) same
        rcases List.mem_cons.mp ((mem_destutter'_iff next item rest).mp inside) with rfl | behind
        · exact start
        · exact Std.TransCmp.lt_of_lt_of_isLE start ((List.pairwise_cons.mp later).1 item behind)

theorem pairwise_eraseReps {items : List α}
    (ascending : items.Pairwise fun a b => (compare a b).isLE) :
    items.eraseReps.Pairwise fun a b => compare a b = .lt := by
  rw [eraseReps_eq_destutter]
  cases items with
  | nil => exact List.Pairwise.nil
  | cons first rest => exact pairwise_destutter' ascending

end Neighbours

/-! ## The order of references -/

namespace TypeRef

/-- The order of two references as they are held: by the bytes of their names, then by the starts of
their simple names. -/
def compareHeld (a b : TypeRef) : Ordering :=
  (compare (Text.bytes a.canonicalName) (Text.bytes b.canonicalName)).then
    (compare a.simpleStart b.simpleStart)

/-- The start of the simple name never decides. -/
theorem compare_eq_compare_canonicalName (a b : TypeRef) :
    compare a b = compare a.canonicalName b.canonicalName := by
  change (compare a.canonicalName b.canonicalName).then (compare a.simpleStart b.simpleStart) = _
  cases order : compare a.canonicalName b.canonicalName with
  | lt => rfl
  | gt => rfl
  | eq =>
      cases eq_of_canonicalName_eq (Std.LawfulEqOrd.eq_of_compare order)
      exact Std.ReflOrd.compare_self

/-- Neither does it matter that names are held as bytes. -/
theorem compareHeld_eq_compare (a b : TypeRef) : compareHeld a b = compare a b := by
  rw [compareHeld, Text.compare_bytes, ← Text.compare_codePoints]
  rfl

instance : Std.TransOrd TypeRef where
  eq_swap := by
    intro a b
    rw [compare_eq_compare_canonicalName, compare_eq_compare_canonicalName]
    exact Std.OrientedOrd.eq_swap
  isLE_trans := by
    intro a b c ab bc
    rw [compare_eq_compare_canonicalName] at ab bc ⊢
    exact Std.TransOrd.isLE_trans ab bc

instance : Std.LawfulEqOrd TypeRef where
  compare_self := by
    intro a
    rw [compare_eq_compare_canonicalName]
    exact Std.ReflOrd.compare_self
  eq_of_compare := by
    intro a b order
    rw [compare_eq_compare_canonicalName] at order
    exact eq_of_canonicalName_eq (Std.LawfulEqOrd.eq_of_compare order)

theorem pairwise_ascending (refs : List TypeRef) :
    (ascending refs).Pairwise fun a b => compare a b = .lt := by
  apply pairwise_eraseReps
  apply List.pairwise_mergeSort
  · intro a b c ab bc
    exact Std.TransOrd.isLE_trans ab bc
  · intro a b
    rw [Std.OrientedOrd.eq_swap (a := b)]
    cases compare a b <;> rfl

theorem mem_ascending_iff (ref : TypeRef) (refs : List TypeRef) :
    ref ∈ ascending refs ↔ ref ∈ refs := by
  rw [ascending, mem_eraseReps_iff, List.mem_mergeSort]

/-- The names of references that were put in order are strictly ascending by code points. -/
theorem pairwise_names_ascending (refs : List TypeRef) :
    ((ascending refs).map canonicalName).Pairwise fun name other =>
      compare (Text.codePoints name) (Text.codePoints other) = .lt := by
  rw [List.pairwise_map]
  refine (pairwise_ascending refs).imp ?_
  intro a b before
  rw [← Text.compare_codePoints, ← compare_eq_compare_canonicalName]
  exact before

theorem mem_names_ascending_iff (name : String) (refs : List TypeRef) :
    name ∈ (ascending refs).map canonicalName ↔ name ∈ refs.map canonicalName := by
  simp only [List.mem_map, mem_ascending_iff]

theorem count_names_ascending (name : String) (refs : List TypeRef) :
    ((ascending refs).map canonicalName).count name =
      if name ∈ refs.map canonicalName then 1 else 0 := by
  have once : ((ascending refs).map canonicalName).Nodup := by
    refine (pairwise_names_ascending refs).imp ?_
    rintro name _ before rfl
    rw [Std.ReflOrd.compare_self] at before
    cases before
  rw [once.count]
  simp only [mem_names_ascending_iff]

theorem mapM_parse_map_canonicalName (refs : List TypeRef) :
    (refs.map canonicalName).mapM parse = .ok refs := by
  induction refs with
  | nil => rfl
  | cons ref refs ih =>
      rw [List.map_cons, List.mapM_cons, parse_canonicalName, ih]
      rfl

theorem exists_map_canonicalName_eq {names : List String}
    (accepted : ∀ name ∈ names, ∃ ref, parse name = .ok ref) :
    ∃ refs : List TypeRef, refs.map canonicalName = names := by
  induction names with
  | nil => exact ⟨[], rfl⟩
  | cons name names ih =>
      obtain ⟨first, rest⟩ := List.forall_mem_cons.mp accepted
      obtain ⟨ref, parsed⟩ := first
      obtain ⟨refs, rfl⟩ := ih rest
      obtain rfl := (parse_eq_ok_iff name ref).mp parsed
      exact ⟨ref :: refs, rfl⟩

/-- Parsed references are told apart and put in order by their names alone, by code points, however
they are held. A list of names that can be parsed is put into strictly ascending order, in which each
of the names stands once. -/
theorem order_of_parse :
    (∀ (name other : String) (a b : TypeRef), parse name = .ok a → parse other = .ok b →
      (a = b ↔ a.canonicalName = b.canonicalName) ∧
      (a.canonicalName = b.canonicalName → a.simpleStart = b.simpleStart) ∧
      compareHeld a b = compare (Text.codePoints name) (Text.codePoints other) ∧
      compare a b = compare (Text.codePoints name) (Text.codePoints other)) ∧
    ∀ names : List String, (∀ name ∈ names, ∃ ref, parse name = .ok ref) →
      ∃ refs, names.mapM parse = .ok refs ∧
        (refs.mergeSort fun a b => (compareHeld a b).isLE).eraseReps = ascending refs ∧
        (((ascending refs).map canonicalName).Pairwise fun name other =>
          compare (Text.codePoints name) (Text.codePoints other) = .lt) ∧
        ∀ name, ((ascending refs).map canonicalName).count name =
          if name ∈ names then 1 else 0 := by
  constructor
  · intro name other a b first second
    obtain rfl := (parse_eq_ok_iff name a).mp first
    obtain rfl := (parse_eq_ok_iff other b).mp second
    rw [compareHeld_eq_compare, compare_eq_compare_canonicalName, Text.compare_codePoints]
    refine ⟨canonicalName_inj.symm, ?_, rfl, rfl⟩
    intro same
    rw [eq_of_canonicalName_eq same]
  · intro names accepted
    obtain ⟨refs, rfl⟩ := exists_map_canonicalName_eq accepted
    refine ⟨refs, mapM_parse_map_canonicalName refs, ?_, pairwise_names_ascending refs,
      fun name => count_names_ascending name refs⟩
    simp only [compareHeld_eq_compare]
    rfl

def strewn : List TypeRef :=
  [⟨"org.\u65e5\u672c", by decide⟩, ⟨"org.example.Foo", by decide⟩, ⟨"org.\u00c9lan", by decide⟩,
    ⟨"org.\u65e5\u672c", by decide⟩, ⟨"org", by decide⟩, ⟨"org.example.Foo", by decide⟩]

theorem order_of_strewn :
    (∃ a b, parse "org.\u00c9lan" = .ok a ∧ parse "org.\u65e5\u672c" = .ok b ∧
      compare a b = .lt ∧ compareHeld a b = .lt) ∧
    (∀ name ∈ strewn.map canonicalName, ∃ ref, parse name = .ok ref) ∧
    ∃ refs, (strewn.map canonicalName).mapM parse = .ok refs ∧
      ((ascending refs).map canonicalName).count "org.\u65e5\u672c" = 1 := by
  obtain ⟨pairs, lists⟩ := order_of_parse
  have accepted : ∀ name ∈ strewn.map canonicalName, ∃ ref, parse name = .ok ref := by
    intro name inside
    obtain ⟨ref, _, rfl⟩ := List.mem_map.mp inside
    exact ⟨ref, parse_canonicalName ref⟩
  refine ⟨?_, accepted, ?_⟩
  · have first := parse_canonicalName ⟨"org.\u00c9lan", by decide⟩
    have second := parse_canonicalName ⟨"org.\u65e5\u672c", by decide⟩
    obtain ⟨_, _, held, ordered⟩ := pairs _ _ _ _ first second
    exact ⟨_, _, first, second, ordered.trans (by decide), held.trans (by decide)⟩
  · obtain ⟨refs, parsed, _, _, once⟩ := lists _ accepted
    exact ⟨refs, parsed, (once _).trans (by decide)⟩

end TypeRef

end Companion
