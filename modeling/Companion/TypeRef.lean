import Companion.Package

/-!
# Type references

A type is referred to by its canonical name: one or more non-empty segments joined by dots. The
last segment is its simple name, the segments before it are its package.
-/

namespace Companion

def nameSegments (name : String) : List (List Char) :=
  name.toList.splitOn '.'

structure TypeRef where
  canonicalName : String
  segments_ne_nil : ∀ segment ∈ nameSegments canonicalName, segment ≠ []
deriving DecidableEq

namespace TypeRef

inductive Flaw where
  | emptyName
  | emptySegment
deriving DecidableEq, Repr

def Flaw.reason : Flaw → String
  | .emptyName => "empty canonical name"
  | .emptySegment => "empty name segment"

structure Refusal where
  reference : String
  flaw : Flaw
deriving DecidableEq, Repr

def parse (name : String) : Except Refusal TypeRef :=
  if h : ∀ segment ∈ nameSegments name, segment ≠ [] then .ok ⟨name, h⟩
  else if name = "" then .error ⟨name, .emptyName⟩
  else .error ⟨name, .emptySegment⟩

def segments (ref : TypeRef) : List (List Char) :=
  nameSegments ref.canonicalName

def simpleName (ref : TypeRef) : String :=
  String.ofList (ref.segments.getLast?.getD [])

/-- Everything before the simple name; empty for the default package. -/
def package (ref : TypeRef) : String :=
  String.ofList (['.'].intercalate ref.segments.dropLast)

/-- The offset in bytes at which the simple name starts. -/
def simpleStart (ref : TypeRef) : Nat :=
  ref.canonicalName.utf8ByteSize - ref.simpleName.utf8ByteSize

/--
Whether the type counts as visible without an import. This is a plain prefix test, so that the
packages below the implicit package, and any name that merely starts like it, count as well.
-/
def isImplicit (ref : TypeRef) : Bool :=
  implicitPackage.toList.isPrefixOf ref.canonicalName.toList

instance : Ord TypeRef where
  compare a b :=
    (compare a.canonicalName b.canonicalName).then (compare a.simpleStart b.simpleStart)

instance : ToString TypeRef where
  toString ref := ref.canonicalName

/-- The references in ascending order, equal neighbours written once. -/
def ascending (refs : List TypeRef) : List TypeRef :=
  (refs.mergeSort fun a b => (compare a b).isLE).eraseReps

theorem parse_eq_ok_iff (name : String) (ref : TypeRef) :
    parse name = .ok ref ↔ ref.canonicalName = name := by
  constructor
  · intro parsed
    simp only [parse] at parsed
    split at parsed
    · cases parsed
      rfl
    · split at parsed <;> cases parsed
  · rintro rfl
    unfold parse
    rw [dif_pos ref.segments_ne_nil]

theorem parse_canonicalName (ref : TypeRef) : parse ref.canonicalName = .ok ref :=
  (parse_eq_ok_iff ref.canonicalName ref).mpr rfl

end TypeRef

end Companion
