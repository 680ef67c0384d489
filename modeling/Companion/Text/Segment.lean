/-!
# Cutting a text at separators

No piece of a text that is cut at every separator holds a separator. `splitLast?` gives the two
parts of a text around the last occurrence of a separator; gluing them with the separator gives the
text back, and the second part holds no separator.
-/

namespace Companion.Text

theorem not_mem_of_mem_splitOn {separator : Char} {text piece : List Char}
    (found : piece ∈ text.splitOn separator) : separator ∉ piece := by
  induction text generalizing piece with
  | nil => simp_all
  | cons c rest ih =>
      rw [List.splitOn_cons_eq_if_modifyHead] at found
      split at found
      · rcases List.mem_cons.mp found with rfl | later
        · simp
        · exact ih later
      · next differ =>
          cases pieces : rest.splitOn separator with
          | nil => simp [pieces] at found
          | cons first others =>
              rw [pieces] at found
              rcases List.mem_cons.mp found with rfl | later
              · have free : separator ∉ first := ih (by simp [pieces])
                simp only [List.mem_cons, not_or]
                exact ⟨fun same => differ (by simp [same]), free⟩
              · exact ih (by simp [pieces, later])

/-- The text before the last separator and the text after it, if there is a separator. -/
def splitLast? (separator : Char) : List Char → Option (List Char × List Char)
  | [] => none
  | c :: rest =>
      match splitLast? separator rest with
      | some (before, after) => some (c :: before, after)
      | none => if c = separator then some ([], rest) else none

theorem splitLast?_eq_none_iff (separator : Char) (text : List Char) :
    splitLast? separator text = none ↔ separator ∉ text := by
  induction text with
  | nil => simp [splitLast?]
  | cons c rest ih =>
      cases found : splitLast? separator rest with
      | some parts =>
          have inside : separator ∈ rest := by
            by_cases h : separator ∈ rest
            · exact h
            · simp [ih.mpr h] at found
          simp [splitLast?, found, inside]
      | none =>
          by_cases h : c = separator
          · simp [splitLast?, found, h]
          · have outside := ih.mp found
            simp [splitLast?, found, h, outside, Ne.symm h]

theorem splitLast?_eq_some_iff (separator : Char) (text before after : List Char) :
    splitLast? separator text = some (before, after) ↔
      text = before ++ separator :: after ∧ separator ∉ after := by
  induction text generalizing before after with
  | nil => simp [splitLast?]
  | cons c rest ih =>
      cases found : splitLast? separator rest with
      | some parts =>
          obtain ⟨left, right⟩ := parts
          obtain ⟨glued, free⟩ := (ih left right).mp found
          constructor
          · intro same
            simp only [splitLast?, found, Option.some.injEq, Prod.mk.injEq] at same
            obtain ⟨rfl, rfl⟩ := same
            exact ⟨by simp [glued], free⟩
          · rintro ⟨same, clear⟩
            cases before with
            | nil =>
                simp only [List.nil_append, List.cons.injEq] at same
                exact absurd (by simp [← same.2, glued]) clear
            | cons d before =>
                simp only [List.cons_append, List.cons.injEq] at same
                have inner := (ih before after).mpr ⟨same.2, clear⟩
                rw [found] at inner
                simp only [Option.some.injEq, Prod.mk.injEq] at inner
                simp [splitLast?, found, same.1, inner.1, inner.2]
      | none =>
          have outside := (splitLast?_eq_none_iff separator rest).mp found
          by_cases h : c = separator
          · constructor
            · intro same
              simp only [splitLast?, found, h, if_true, Option.some.injEq, Prod.mk.injEq] at same
              obtain ⟨rfl, rfl⟩ := same
              exact ⟨by simp [h], outside⟩
            · rintro ⟨same, _⟩
              cases before with
              | nil =>
                  simp only [List.nil_append, List.cons.injEq] at same
                  simp [splitLast?, h, ← same.2, found]
              | cons d before =>
                  simp only [List.cons_append, List.cons.injEq] at same
                  exact absurd (by simp [same.2]) outside
          · constructor
            · intro same
              simp [splitLast?, found, h] at same
            · rintro ⟨same, _⟩
              cases before with
              | nil =>
                  simp only [List.nil_append, List.cons.injEq] at same
                  exact absurd same.1 h
              | cons d before =>
                  simp only [List.cons_append, List.cons.injEq] at same
                  exact absurd (by simp [same.2]) outside

end Companion.Text
