import Companion.Proofs.Descriptor.Defects
import Companion.Proofs.Generation.Rendered

/-!
# The names of types

The name of a type is to be a sequence of letters, digits, underscores and dollar signs that does not
start with a digit, or empty. Validation lets every such name pass. The two ways in which another
name can pass are stated as well: only ASCII digits are refused at the start, and numbers that are
neither letters nor decimal digits are not refused at all.
-/

namespace Companion

/-- A letter or a decimal digit of any script, the underscore or the dollar sign. -/
def isTypeNameChar (c : Char) : Bool :=
  Unicode.isAlphabetic c || Unicode.isDecimalDigit c || c = '_' || c = '$'

structure IsTypeName (name : String) : Prop where
  characters : ∀ c ∈ name.toList, isTypeNameChar c = true
  start : ∀ first ∈ name.toList.head?, Unicode.isDecimalDigit first = false

def startsWithForeignDigit (name : String) : Bool :=
  name.toList.head?.any fun first => Unicode.isDecimalDigit first && !first.isDigit

/-- Whether a name holds a fraction, a superscript or another number that is neither a letter nor a
decimal digit. -/
def holdsOtherNumber (name : String) : Bool :=
  name.toList.any fun c => Unicode.isNumeric c && !isTypeNameChar c

theorem isDecimalDigit_of_isDigit {c : Char} (digit : c.isDigit = true) :
    Unicode.isDecimalDigit c = true := by
  obtain ⟨low, high⟩ := (Bool.and_eq_true _ _).mp digit
  rw [Unicode.isDecimalDigit, Unicode.covers_eq_true_iff]
  refine ⟨(0x30, 0x39), List.mem_cons_self, ?_, ?_⟩
  · exact UInt32.le_iff_toNat_le.mp (of_decide_eq_true low)
  · exact UInt32.le_iff_toNat_le.mp (of_decide_eq_true high)

theorem isIdentifierChar_eq_true_iff {c : Char} :
    isIdentifierChar c = true ↔ isTypeNameChar c = true ∨ Unicode.isNumeric c = true := by
  simp only [isIdentifierChar, isTypeNameChar, Unicode.isAlphanumeric, Unicode.isNumeric,
    Bool.or_eq_true, decide_eq_true_eq]
  grind

theorem isIdentifierOrEmpty_eq_true_iff {name : String} :
    isIdentifierOrEmpty name = true ↔
      (∀ c ∈ name.toList, isIdentifierChar c = true) ∧
        ∀ first ∈ name.toList.head?, first.isDigit = false := by
  unfold isIdentifierOrEmpty
  cases name.toList with
  | nil => simp
  | cons first rest => simp [and_comm]

theorem IsTypeName.isIdentifierOrEmpty {name : String} (rule : IsTypeName name) :
    isIdentifierOrEmpty name = true := by
  rw [isIdentifierOrEmpty_eq_true_iff]
  constructor
  · intro c inside
    exact isIdentifierChar_eq_true_iff.mpr (Or.inl (rule.characters c inside))
  · intro first leading
    apply Bool.eq_false_iff.mpr
    intro digit
    have decimal := isDecimalDigit_of_isDigit digit
    rw [rule.start first leading] at decimal
    cases decimal

/-- The names that pass and do not follow the rule. -/
theorem isTypeName_iff_of_passed {name : String} (passed : isIdentifierOrEmpty name = true) :
    IsTypeName name ↔ startsWithForeignDigit name = false ∧ holdsOtherNumber name = false := by
  obtain ⟨identifier, start⟩ := isIdentifierOrEmpty_eq_true_iff.mp passed
  constructor
  · intro rule
    constructor
    · rw [startsWithForeignDigit, Option.any_eq_false]
      intro first leading
      rw [rule.start first leading, Bool.false_and]
    · rw [holdsOtherNumber, List.any_eq_false]
      intro c inside
      rw [rule.characters c inside, Bool.not_true, Bool.and_false]
      exact Bool.false_ne_true
  · rintro ⟨native, plain⟩
    rw [startsWithForeignDigit, Option.any_eq_false] at native
    rw [holdsOtherNumber, List.any_eq_false] at plain
    refine ⟨fun c inside => ?_, fun first leading => ?_⟩
    · rcases isIdentifierChar_eq_true_iff.mp (identifier c inside) with lawful | number
      · exact lawful
      · have none := plain c inside
        rw [number, Bool.true_and, Bool.not_eq_true', Bool.not_eq_false] at none
        exact none
    · apply Bool.eq_false_iff.mpr
      intro decimal
      have digit := native first leading
      rw [decimal, start first leading] at digit
      cases digit

namespace Descriptor

/-- A descriptor without a defect has a name of letters, numbers, underscores and dollar signs. It
follows the rule unless it starts with a digit of another script or holds a number of another kind.
Conversely no descriptor is refused for a name that follows the rule. -/
theorem typeName_of_validate (d : Descriptor) :
    (d.validate = .ok () →
      (∀ c ∈ d.name.toList, isTypeNameChar c = true ∨ Unicode.isNumeric c = true) ∧
      (IsTypeName d.name ↔
        startsWithForeignDigit d.name = false ∧ holdsOtherNumber d.name = false)) ∧
    (IsTypeName d.name →
      isIdentifierOrEmpty d.name = true ∧
      ∀ qualifiedName name, d.validate ≠ .error (.notIdentifier qualifiedName name)) := by
  constructor
  · intro valid
    have passed := ((validate_eq_ok_iff d).mp valid).2.1
    refine ⟨?_, isTypeName_iff_of_passed passed⟩
    intro c inside
    exact isIdentifierChar_eq_true_iff.mp ((isIdentifierOrEmpty_eq_true_iff.mp passed).1 c inside)
  · intro rule
    refine ⟨rule.isIdentifierOrEmpty, ?_⟩
    intro qualifiedName name refused
    cases (validate_eq_error_iff d _).mp refused with
    | notIdentifier _ foreign =>
        rw [rule.isIdentifierOrEmpty] at foreign
        cases foreign

def bare (name : String) : Descriptor where
  name := name
  qualifiedName := "org.example.Foo"

theorem validate_bare {name : String} (passed : isIdentifierOrEmpty name = true) :
    (bare name).validate = .ok () := by
  rw [validate_eq_ok_iff]
  refine ⟨?_, passed, ?_, ?_⟩
  · exact of_decide_eq_true rfl
  · intro capability none
    cases none
  · intro property none
    cases none

/-- Letters, a digit that is not the first character, and both signs. -/
def manyScripts : String :=
  "Stra\u00dfe\u0663_$"

theorem typeName_of_manyScripts :
    (bare manyScripts).validate = .ok () ∧ IsTypeName (bare manyScripts).name ∧
      ∀ qualifiedName name,
        (bare manyScripts).validate ≠ .error (.notIdentifier qualifiedName name) := by
  have passed : isIdentifierOrEmpty manyScripts = true := by decide +kernel
  obtain ⟨passes, follows⟩ := typeName_of_validate (bare manyScripts)
  have rule : IsTypeName manyScripts :=
    (passes (validate_bare passed)).2.mpr ⟨by decide +kernel, by decide +kernel⟩
  exact ⟨validate_bare passed, rule, (follows rule).2⟩

/-- A name that starts with an Arabic three passes, and so does one that ends with a fraction. -/
theorem other_names_can_pass :
    (bare "\u0663Foo").validate = .ok () ∧ ¬ IsTypeName (bare "\u0663Foo").name ∧
      (bare "Foo\u00bd").validate = .ok () ∧ ¬ IsTypeName (bare "Foo\u00bd").name := by
  refine ⟨validate_bare (by decide +kernel), ?_, validate_bare (by decide +kernel), ?_⟩
  · intro rule
    exact absurd (rule.start '\u0663' rfl) (by decide +kernel)
  · intro rule
    exact absurd (rule.characters '\u00bd' (by decide)) (by decide +kernel)

end Descriptor

end Companion
