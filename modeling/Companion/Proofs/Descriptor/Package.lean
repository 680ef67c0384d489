import Companion.Proofs.TypeRef.Grammar
import Companion.Proofs.EntityClass.ImportSection

/-!
# The package of a unit

The package of a qualified name is looked up in three ways: by splitting the name at its last dot, by
cutting it in front of the offset of that dot, and by cutting it in front of the offset that a
reference keeps for its simple name. All of them find the one package that the name has, whatever
stands between its dots. A unit is therefore told apart from its imports by its package alone.
-/

namespace Companion

/-- The package of a qualified name is everything before its last dot, and the default package if there
is no dot. -/
inductive IsPackageOf : String → String → Prop where
  | default {name : String} (free : '.' ∉ name.toList) : IsPackageOf "" name
  | before {package unit : String} (free : '.' ∉ unit.toList) :
      IsPackageOf package (package ++ "." ++ unit)

/-- The package by the offset of the last dot; nothing if the name cannot be cut there. -/
def packageAtLastDot? (name : String) : Option String :=
  match Text.lastOffset? '.' name.toList with
  | some offset => (Text.splitAt? name offset).map Prod.fst
  | none => some ""

/-- The package by the offset of the simple name; nothing if the name cannot be cut there. -/
def TypeRef.packageBeforeStart? (ref : TypeRef) : Option String :=
  if ref.simpleStart = 0 then some ""
  else (Text.splitAt? ref.canonicalName (ref.simpleStart - 1)).map Prod.fst

theorem isPackageOf_packagePart (name : String) : IsPackageOf (packagePart name) name := by
  unfold packagePart
  cases split : Text.splitLast? '.' name.toList with
  | none => exact .default ((Text.splitLast?_eq_none_iff _ _).mp split)
  | some parts =>
      obtain ⟨before, after⟩ := parts
      obtain ⟨glued, free⟩ := (Text.splitLast?_eq_some_iff _ _ _ _).mp split
      have whole : name = String.ofList before ++ "." ++ String.ofList after := by
        apply String.toList_injective
        simp [glued]
      rw [whole]
      exact .before (by simpa using free)

namespace IsPackageOf

variable {package name : String}

theorem packagePart_eq (found : IsPackageOf package name) : packagePart name = package := by
  unfold packagePart
  cases found with
  | default free => rw [(Text.splitLast?_eq_none_iff _ _).mpr free]
  | @before package unit free =>
      have split : Text.splitLast? '.' (package ++ "." ++ unit).toList =
          some (package.toList, unit.toList) := by
        rw [Text.splitLast?_eq_some_iff]
        exact ⟨by simp, free⟩
      rw [split]
      exact String.ofList_toList

theorem unique {other : String} (found : IsPackageOf package name)
    (also : IsPackageOf other name) : other = package :=
  also.packagePart_eq.symm.trans found.packagePart_eq

/-- The last dot is where the package ends, and no character lies across its offset. -/
theorem packageAtLastDot?_eq (found : IsPackageOf package name) :
    packageAtLastDot? name = some package := by
  unfold packageAtLastDot?
  cases found with
  | default free => rw [Text.lastOffset?_eq_none free]
  | @before package unit free =>
      have offset : Text.lastOffset? '.' (package ++ "." ++ unit).toList =
          some package.utf8ByteSize := by
        have last : Text.lastOffset? '.' (package.toList ++ '.' :: unit.toList) =
            some (String.ofList package.toList).utf8ByteSize := Text.lastOffset?_append free
        rw [String.ofList_toList] at last
        simpa using last
      have cut := Text.splitAt?_append package ("." ++ unit)
      rw [← String.append_assoc] at cut
      rw [offset]
      exact congrArg (Option.map Prod.fst) cut

end IsPackageOf

theorem TypeRef.packageBeforeStart?_eq (ref : TypeRef) :
    ref.packageBeforeStart? = some ref.package :=
  (decomposition ref.dotted_canonicalName).cut_package

namespace EntityClass

variable {d : Descriptor} {own : TypeRef}

/-- The filter of the imports tells the types of the unit's package by their package. -/
theorem needsImport_eq_false (home : own.package = d.package) :
    needsImport d.package own.canonicalName = false := by
  apply Bool.eq_false_iff.mpr
  intro needed
  exact ((needsImport_canonicalName_iff _ _).mp needed).2.2 home

theorem not_mem_imports_of_package {c : EntityClass} (home : own.package = d.package)
    (resolved : (ofDescriptor d).run.value = .ok c) : own.canonicalName ∉ c.imports := by
  obtain ⟨_, scope, _, _, rfl⟩ := history_of_ofDescriptor resolved
  rw [List.mem_filter, needsImport_eq_false home]
  exact fun listed => Bool.false_ne_true listed.2

end EntityClass

namespace Descriptor

/-- Every qualified name has one package, and each way to look for it finds that package. The unit of
a type is read back as a member of the type's package, so no unit is imported into itself. -/
theorem package_searches_agree :
    (∀ name, ∃ package, IsPackageOf package name ∧
      (∀ other, IsPackageOf other name → other = package) ∧
      packagePart name = package ∧ packageAtLastDot? name = some package ∧
      (∀ d : Descriptor, d.qualifiedName = name → d.package = package) ∧
      ∀ ref, TypeRef.parse name = .ok ref →
        ref.package = package ∧ ref.packageBeforeStart? = some package) ∧
    ∀ (d : Descriptor) (own : TypeRef), '.' ∉ d.name.toList →
      TypeRef.parse (qualify d.package d.companionName) = .ok own →
        own.simpleName = d.companionName ∧ own.package = d.package ∧
        packagePart own.canonicalName = d.package ∧
        EntityClass.needsImport d.package own.canonicalName = false ∧
        ∀ c, (EntityClass.ofDescriptor d).run.value = .ok c → own.canonicalName ∉ c.imports := by
  constructor
  · intro name
    have found := isPackageOf_packagePart name
    refine ⟨packagePart name, found, fun _ => found.unique, rfl, found.packageAtLastDot?_eq, ?_, ?_⟩
    · rintro d rfl
      rfl
    · intro ref parsed
      obtain rfl := (TypeRef.parse_eq_ok_iff name ref).mp parsed
      rw [TypeRef.packagePart_canonicalName]
      exact ⟨rfl, ref.packageBeforeStart?_eq⟩
  · intro d own free parsed
    have named := (TypeRef.parse_eq_ok_iff _ _).mp parsed
    have unit : '.' ∉ d.companionName.toList := not_mem_companionName_of_free free (by decide)
    obtain ⟨home, simpleName⟩ := TypeRef.parts_of_eq_qualify named unit
    refine ⟨simpleName, home, ?_, EntityClass.needsImport_eq_false home, ?_⟩
    · rw [TypeRef.packagePart_canonicalName, home]
    · intro c resolved
      exact EntityClass.not_mem_imports_of_package home resolved

/-- A type with a property of its own companion, in a package with characters of several bytes. -/
def selfish : Descriptor where
  name := "\u00c9lan"
  qualifiedName := "gr\u00f6\u00dfe.\u65e5\u672c.\u00c9lan"
  properties := [
    { name := "self", type := ⟨"gr\u00f6\u00dfe.\u65e5\u672c.\u00c9lanEntity", by decide⟩ }]

theorem resolved_selfish : ∃ c, (EntityClass.ofDescriptor selfish).run.value = .ok c := by
  have success : (EntityClass.ofDescriptor selfish).run.value.isOk = true := by rfl
  cases resolved : (EntityClass.ofDescriptor selfish).run.value with
  | ok c => exact ⟨c, rfl⟩
  | error error =>
      rw [resolved] at success
      cases success

theorem package_searches_agree_on_selfish :
    ∃ ref own c, TypeRef.parse selfish.qualifiedName = .ok ref ∧ '.' ∉ selfish.name.toList ∧
      TypeRef.parse (qualify selfish.package selfish.companionName) = .ok own ∧
      (EntityClass.ofDescriptor selfish).run.value = .ok c ∧
      packageAtLastDot? selfish.qualifiedName = some selfish.package ∧
      ref.packageBeforeStart? = some selfish.package ∧
      packagePart own.canonicalName = selfish.package ∧ own.canonicalName ∉ c.imports := by
  obtain ⟨searches, units⟩ := package_searches_agree
  obtain ⟨package, _, _, _, cut, declared, referred⟩ := searches selfish.qualifiedName
  obtain rfl := declared selfish rfl
  obtain ⟨c, resolved⟩ := resolved_selfish
  have read : TypeRef.parse selfish.qualifiedName =
      .ok ⟨"gr\u00f6\u00dfe.\u65e5\u672c.\u00c9lan", by decide⟩ :=
    (TypeRef.parse_eq_ok_iff _ _).mpr rfl
  have free : '.' ∉ selfish.name.toList := by decide
  have parsed : TypeRef.parse (qualify selfish.package selfish.companionName) =
      .ok ⟨"gr\u00f6\u00dfe.\u65e5\u672c.\u00c9lanEntity", by decide⟩ :=
    (TypeRef.parse_eq_ok_iff _ _).mpr (by decide +kernel)
  obtain ⟨_, _, home, _, unlisted⟩ := units selfish _ free parsed
  exact ⟨_, _, c, read, free, parsed, resolved, cut, (referred _ read).2, home,
    unlisted c resolved⟩

end Descriptor

end Companion
