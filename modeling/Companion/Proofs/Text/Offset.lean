import Companion.Package

/-!
# Offsets in bytes

Texts are held in UTF-8, where a character takes one to four bytes, and a place in a text is given by
its offset in bytes. A text can be split at an offset only if that offset lies between two characters
or at one of the ends. The offset of the last occurrence of a character is such a place, and so is
the one behind it.
-/

namespace Companion.Text

/-- The parts of a text before and from an offset; nothing if the offset lies inside a character or
beyond the end. -/
def splitAt? (text : String) (offset : Nat) : Option (String × String) :=
  if valid : String.Pos.Raw.isValid text ⟨offset⟩ = true then
    let pos := text.pos ⟨offset⟩ (String.Pos.Raw.isValid_eq_true_iff.mp valid)
    some ((text.sliceTo pos).copy, (text.sliceFrom pos).copy)
  else
    none

theorem splitAt?_append (before after : String) :
    splitAt? (before ++ after) before.utf8ByteSize = some (before, after) := by
  have inside : String.Pos.Raw.IsValid (before ++ after) ⟨before.utf8ByteSize⟩ :=
    String.Pos.Raw.isValid_rawEndPos.append_right after
  have split : ((before ++ after).pos ⟨before.utf8ByteSize⟩ inside).Splits before after :=
    String.Pos.splits_append_rawEndPos
  rw [splitAt?, dif_pos (String.Pos.Raw.isValid_eq_true_iff.mpr inside)]
  exact congrArg some (Prod.ext split.copy_sliceTo_eq split.copy_sliceFrom_eq)

def lastOffset? (c : Char) : List Char → Option Nat
  | [] => none
  | first :: rest =>
      match lastOffset? c rest with
      | some offset => some (first.utf8Size + offset)
      | none => if first = c then some 0 else none

theorem lastOffset?_eq_none {c : Char} {text : List Char} (free : c ∉ text) :
    lastOffset? c text = none := by
  induction text with
  | nil => rfl
  | cons first rest ih =>
      obtain ⟨other, later⟩ := not_or.mp (mt List.mem_cons.mpr free)
      rw [lastOffset?, ih later]
      exact if_neg (Ne.symm other)

theorem lastOffset?_append {c : Char} {before after : List Char} (free : c ∉ after) :
    lastOffset? c (before ++ c :: after) = some (String.ofList before).utf8ByteSize := by
  induction before with
  | nil =>
      rw [List.nil_append, lastOffset?, lastOffset?_eq_none free]
      exact if_pos rfl
  | cons first rest ih =>
      have size : (String.ofList (first :: rest)).utf8ByteSize =
          first.utf8Size + (String.ofList rest).utf8ByteSize := by
        rw [← List.singleton_append, String.ofList_append, String.utf8ByteSize_append,
          ← String.singleton_eq_ofList, String.utf8ByteSize_singleton]
      rw [List.cons_append, lastOffset?, ih, size]

end Companion.Text
