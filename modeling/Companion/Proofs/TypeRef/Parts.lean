import Companion.TypeRef

/-!
# The parts of a canonical name

A canonical name is its package and its simple name, joined by a dot unless the package is empty.
The simple name holds no dot, so the two parts determine the name and are determined by it. The
package found by cutting a qualified name at its last dot is the package of the reference.
-/

namespace Companion

namespace Text

theorem splitOn_of_splitLast? {separator : Char} {text before after : List Char}
    (split : splitLast? separator text = some (before, after)) :
    text.splitOn separator = before.splitOn separator ++ [after] := by
  obtain ⟨glued, free⟩ := (splitLast?_eq_some_iff separator text before after).mp split
  rw [glued, List.splitOn_append_cons_self, List.splitOn_eq_singleton free]

theorem splitOn_of_splitLast?_eq_none {separator : Char} {text : List Char}
    (whole : splitLast? separator text = none) : text.splitOn separator = [text] :=
  List.splitOn_eq_singleton ((splitLast?_eq_none_iff separator text).mp whole)

end Text

namespace TypeRef

theorem eq_of_canonicalName_eq {a b : TypeRef} (same : a.canonicalName = b.canonicalName) :
    a = b := by
  cases a
  cases b
  cases same
  rfl

@[simp]
theorem canonicalName_inj {a b : TypeRef} : a.canonicalName = b.canonicalName ↔ a = b := by
  constructor
  · exact eq_of_canonicalName_eq
  · rintro rfl
    rfl

theorem parts_of_splitLast? {ref : TypeRef} {before after : List Char}
    (split : Text.splitLast? '.' ref.canonicalName.toList = some (before, after)) :
    ref.package = String.ofList before ∧ ref.simpleName = String.ofList after := by
  have segments : ref.segments = before.splitOn '.' ++ [after] := Text.splitOn_of_splitLast? split
  constructor
  · rw [package, segments, List.dropLast_concat, List.intercalate_splitOn]
  · rw [simpleName, segments, List.getLast?_concat]
    rfl

theorem parts_of_splitLast?_eq_none {ref : TypeRef}
    (whole : Text.splitLast? '.' ref.canonicalName.toList = none) :
    ref.package = "" ∧ ref.simpleName = ref.canonicalName := by
  have segments : ref.segments = [ref.canonicalName.toList] :=
    Text.splitOn_of_splitLast?_eq_none whole
  constructor
  · rw [package, segments]
    rfl
  · rw [simpleName, segments]
    exact String.ofList_toList

theorem packagePart_canonicalName (ref : TypeRef) :
    packagePart ref.canonicalName = ref.package := by
  unfold packagePart
  cases split : Text.splitLast? '.' ref.canonicalName.toList with
  | none => exact (parts_of_splitLast?_eq_none split).1.symm
  | some parts => exact (parts_of_splitLast? split).1.symm

theorem dot_not_mem_simpleName (ref : TypeRef) : '.' ∉ ref.simpleName.toList := by
  cases split : Text.splitLast? '.' ref.canonicalName.toList with
  | none =>
      rw [(parts_of_splitLast?_eq_none split).2]
      exact (Text.splitLast?_eq_none_iff _ _).mp split
  | some parts =>
      rw [(parts_of_splitLast? split).2, String.toList_ofList]
      exact ((Text.splitLast?_eq_some_iff _ _ _ _).mp split).2

/-- No canonical name starts with a dot, so what stands before its last dot is not empty. -/
theorem before_ne_nil {ref : TypeRef} {before after : List Char}
    (split : Text.splitLast? '.' ref.canonicalName.toList = some (before, after)) :
    before ≠ [] := by
  rintro rfl
  have segments : nameSegments ref.canonicalName = [[], after] := Text.splitOn_of_splitLast? split
  exact ref.segments_ne_nil [] (by simp [segments]) rfl

theorem canonicalName_eq_qualify (ref : TypeRef) :
    ref.canonicalName = qualify ref.package ref.simpleName := by
  cases split : Text.splitLast? '.' ref.canonicalName.toList with
  | none =>
      obtain ⟨package, simpleName⟩ := parts_of_splitLast?_eq_none split
      rw [package, simpleName, qualify, if_pos rfl]
  | some parts =>
      obtain ⟨before, after⟩ := parts
      obtain ⟨package, simpleName⟩ := parts_of_splitLast? split
      have filled : String.ofList before ≠ "" := by
        simpa using before_ne_nil split
      rw [package, simpleName, qualify, if_neg filled]
      apply String.toList_injective
      simp [((Text.splitLast?_eq_some_iff _ _ _ _).mp split).1]

/-- The parts of a name that was put together from a package and a name without a dot. -/
theorem parts_of_eq_qualify {ref : TypeRef} {package unit : String}
    (named : ref.canonicalName = qualify package unit) (free : '.' ∉ unit.toList) :
    ref.package = package ∧ ref.simpleName = unit := by
  by_cases home : package = ""
  · rw [qualify, if_pos home] at named
    have whole : Text.splitLast? '.' ref.canonicalName.toList = none := by
      rw [named]
      exact (Text.splitLast?_eq_none_iff _ _).mpr free
    obtain ⟨noPackage, simpleName⟩ := parts_of_splitLast?_eq_none whole
    exact ⟨noPackage.trans home.symm, simpleName.trans named⟩
  · rw [qualify, if_neg home] at named
    have split : Text.splitLast? '.' ref.canonicalName.toList =
        some (package.toList, unit.toList) := by
      rw [Text.splitLast?_eq_some_iff]
      exact ⟨by simp [named], free⟩
    obtain ⟨before, after⟩ := parts_of_splitLast? split
    exact ⟨before.trans String.ofList_toList, after.trans String.ofList_toList⟩

theorem nameSegments_qualify {package unit : String} (named : package ≠ "")
    (free : '.' ∉ unit.toList) :
    nameSegments (qualify package unit) = nameSegments package ++ [unit.toList] := by
  have glued : (qualify package unit).toList = package.toList ++ '.' :: unit.toList := by
    rw [qualify, if_neg named]
    simp
  rw [nameSegments, glued, List.splitOn_append_cons_self, List.splitOn_eq_singleton free]
  rfl

/-- A unit with a name of its own is refused only for a gap in the name of its package. -/
theorem parse_qualify_eq_error_iff {package unit : String} (filled : unit ≠ "")
    (free : '.' ∉ unit.toList) (refusal : Refusal) :
    parse (qualify package unit) = .error refusal ↔
      package ≠ "" ∧ [] ∈ nameSegments package ∧
        refusal = ⟨package ++ "." ++ unit, .emptySegment⟩ := by
  have letters : unit.toList ≠ [] := fun empty => filled (String.toList_eq_nil_iff.mp empty)
  by_cases named : package = ""
  · have whole : nameSegments (qualify package unit) = [unit.toList] := by
      rw [qualify, if_pos named]
      exact List.splitOn_eq_singleton free
    have parsed : ∀ segment ∈ nameSegments (qualify package unit), segment ≠ [] := by
      rw [whole]
      simpa using letters
    rw [parse, dif_pos parsed]
    simp [named]
  · have glued : qualify package unit = package ++ "." ++ unit := if_neg named
    have holds : (∀ segment ∈ nameSegments (qualify package unit), segment ≠ []) ↔
        [] ∉ nameSegments package := by
      rw [nameSegments_qualify named free]
      constructor
      · intro all gap
        exact all [] (List.mem_append_left _ gap) rfl
      · rintro sound segment inside rfl
        rcases List.mem_append.mp inside with gap | last
        · exact sound gap
        · exact letters (List.mem_singleton.mp last).symm
    unfold parse
    by_cases gap : [] ∈ nameSegments package
    · have filled : qualify package unit ≠ "" := by
        rw [glued]
        simp
      rw [dif_neg (fun all => holds.mp all gap), if_neg filled, glued, Except.error.injEq]
      simp [named, gap, eq_comm]
    · rw [dif_pos (holds.mpr gap)]
      simp [gap]

theorem package_eq_empty_of_dot_not_mem {ref : TypeRef}
    (free : '.' ∉ ref.canonicalName.toList) : ref.package = "" :=
  (parts_of_splitLast?_eq_none ((Text.splitLast?_eq_none_iff _ _).mpr free)).1

theorem canonicalName_eq_simpleName_iff (ref : TypeRef) :
    ref.canonicalName = ref.simpleName ↔ ref.package = "" := by
  constructor
  · intro same
    exact package_eq_empty_of_dot_not_mem (same ▸ ref.dot_not_mem_simpleName)
  · intro home
    rw [canonicalName_eq_qualify, home, qualify, if_pos rfl]

theorem canonicalName_ne_of_isImplicit {ref other : TypeRef} (implicit : ref.isImplicit = true)
    (ordinary : other.isImplicit ≠ true) : ref.canonicalName ≠ other.canonicalName := by
  intro same
  cases eq_of_canonicalName_eq same
  exact ordinary implicit

/-- The name of the implicit package has a dot in it, so every implicit type has a package. -/
theorem package_ne_empty_of_isImplicit {ref : TypeRef} (implicit : ref.isImplicit = true) :
    ref.package ≠ "" := by
  intro home
  have start : implicitPackage.toList <+: ref.canonicalName.toList :=
    List.isPrefixOf_iff_prefix.mp implicit
  have dot : '.' ∈ ref.canonicalName.toList := start.subset (by decide)
  rw [(canonicalName_eq_simpleName_iff ref).mpr home] at dot
  exact ref.dot_not_mem_simpleName dot

theorem eq_of_parts_eq {a b : TypeRef} (packages : a.package = b.package)
    (names : a.simpleName = b.simpleName) : a = b := by
  apply eq_of_canonicalName_eq
  rw [canonicalName_eq_qualify, canonicalName_eq_qualify, packages, names]

/-- Every type of exactly the implicit package is implicit. -/
theorem isImplicit_of_package {ref : TypeRef} (home : ref.package = implicitPackage) :
    ref.isImplicit = true := by
  have start : implicitPackage.toList <+: ref.canonicalName.toList := by
    rw [canonicalName_eq_qualify, home, qualify, if_neg (by decide), String.toList_append,
      String.toList_append, List.append_assoc]
    exact List.prefix_append _ _
  exact List.isPrefixOf_iff_prefix.mpr start

end TypeRef

end Companion
