import Companion.Text.Line
import Mathlib.Algebra.GroupWithZero.Nat
import Mathlib.Data.List.Infix

/-!
# Replacing a mark in a text

`replace` writes every occurrence of a mark as something else, from the left and without overlaps.
Two conditions on the substitute make this an escape. If it cannot be confused with the mark, the
mark is nowhere left, not even across a place that was replaced. If its first character comes only
first, a text that did not hold the substitute can be read back by the opposite replacement.
-/

namespace Companion.Text

/-- The text with every occurrence of a mark, found from the left and none inside another, written as
something else. -/
def replace (mark substitute : List Char) : List Char → List Char
  | [] => []
  | c :: rest =>
      if mark ≠ [] ∧ mark <+: c :: rest then
        substitute ++ replace mark substitute (rest.drop (mark.length - 1))
      else c :: replace mark substitute rest
termination_by text => text.length
decreasing_by
  · simp only [List.length_drop, List.length_cons]
    omega
  · exact Nat.lt_succ_self _

def occurrences (mark : List Char) : List Char → Nat
  | [] => 0
  | c :: rest => (if mark <+: c :: rest then 1 else 0) + occurrences mark rest

section Replace

variable {mark substitute : List Char}

@[simp] theorem replace_nil : replace mark substitute [] = [] := by
  rw [replace]

theorem replace_append (filled : mark ≠ []) (rest : List Char) :
    replace mark substitute (mark ++ rest) = substitute ++ replace mark substitute rest := by
  obtain ⟨c, others, rfl⟩ := List.exists_cons_of_ne_nil filled
  rw [List.cons_append, replace, if_pos ⟨filled, List.prefix_append (c :: others) rest⟩,
    List.length_cons, Nat.add_sub_cancel, List.drop_left]

theorem replace_cons_of_unmarked {c : Char} {rest : List Char} (apart : ¬ mark <+: c :: rest) :
    replace mark substitute (c :: rest) = c :: replace mark substitute rest := by
  rw [replace, if_neg fun found => apart found.2]

/-- A text either starts with the mark or keeps its first character. -/
theorem replace_induction {motive : List Char → Prop} (filled : mark ≠ []) (nil : motive [])
    (found : ∀ rest, motive rest → motive (mark ++ rest))
    (kept : ∀ c rest, ¬ mark <+: c :: rest → motive rest → motive (c :: rest))
    (text : List Char) : motive text := by
  fun_induction replace mark [] text with
  | case1 => exact nil
  | case2 c rest start ih =>
      obtain ⟨tail, whole⟩ := start.2
      have cut : rest.drop (mark.length - 1) = tail := by
        obtain ⟨d, others, rfl⟩ := List.exists_cons_of_ne_nil filled
        rw [List.cons_append, List.cons.injEq] at whole
        rw [← whole.2, List.length_cons, Nat.add_sub_cancel, List.drop_left]
      rw [cut] at ih
      rw [← whole]
      exact found tail ih
  | case3 c rest apart ih => exact kept c rest (fun start => apart ⟨filled, start⟩) ih

/-- Characters at the start of a replaced text that no substitute begins with were there before. -/
theorem prefix_of_prefix_replace {first : Char} {others : List Char} (filled : mark ≠ [])
    (text : List Char) {start : List Char} (free : first ∉ start)
    (found : start <+: replace mark (first :: others) text) : start <+: text := by
  induction text using replace_induction filled generalizing start with
  | nil => rwa [replace_nil] at found
  | found rest ih =>
      rw [replace_append filled, List.cons_append] at found
      cases start with
      | nil => exact List.nil_prefix
      | cons c tail =>
          rw [List.cons_prefix_cons] at found
          exact absurd (found.1 ▸ List.mem_cons_self) free
  | kept c rest apart ih =>
      rw [replace_cons_of_unmarked apart] at found
      cases start with
      | nil => exact List.nil_prefix
      | cons d tail =>
          rw [List.cons_prefix_cons] at found ⊢
          exact ⟨found.1, ih (fun inside => free (List.mem_cons_of_mem d inside)) found.2⟩

/-- Replacing backwards gives a text back that did not hold the substitute. -/
theorem replace_replace {first : Char} {others : List Char} (filled : mark ≠ [])
    (once : first ∉ others) (text : List Char) (free : ¬ first :: others <:+: text) :
    replace (first :: others) mark (replace mark (first :: others) text) = text := by
  induction text using replace_induction filled with
  | nil => rw [replace_nil, replace_nil]
  | found rest ih =>
      rw [replace_append filled, replace_append (List.cons_ne_nil first others),
        ih fun inside => free (inside.trans (List.suffix_append mark rest).isInfix)]
  | kept c rest apart ih =>
      have unmarked : ¬ first :: others <+: c :: replace mark (first :: others) rest := by
        intro found
        rw [List.cons_prefix_cons] at found
        have start := prefix_of_prefix_replace filled rest once found.2
        exact free (List.cons_prefix_cons.mpr ⟨found.1, start⟩).isInfix
      rw [replace_cons_of_unmarked apart, replace_cons_of_unmarked unmarked,
        ih fun inside => free (List.infix_cons inside)]

end Replace

section Occurrences

variable {mark : List Char}

/-- A mark that cannot start within a piece of a text stands only behind that piece. -/
theorem occurrences_append_of_apart {piece : List Char}
    (apart : ∀ tail ∈ piece.tails, tail ≠ [] → ¬ tail <+: mark ∧ ¬ mark <+: tail)
    (rest : List Char) : occurrences mark (piece ++ rest) = occurrences mark rest := by
  induction piece with
  | nil => rfl
  | cons c others ih =>
      rw [List.tails_cons, List.forall_mem_cons] at apart
      obtain ⟨whole, within⟩ := apart
      obtain ⟨longer, shorter⟩ := whole (List.cons_ne_nil c others)
      have here : ¬ mark <+: c :: (others ++ rest) := by
        intro start
        rcases List.prefix_or_prefix_of_prefix start (List.prefix_append (c :: others) rest) with
          inside | outside
        · exact shorter inside
        · exact longer outside
      rw [List.cons_append, occurrences, if_neg here, Nat.zero_add]
      exact ih within

/-- After the replacement the mark is nowhere left. -/
theorem occurrences_replace {first : Char} {others : List Char} (filled : mark ≠ [])
    (once : first ∉ mark.tail)
    (apart : ∀ tail ∈ (first :: others).tails, tail ≠ [] → ¬ tail <+: mark ∧ ¬ mark <+: tail)
    (text : List Char) : occurrences mark (replace mark (first :: others) text) = 0 := by
  induction text using replace_induction filled with
  | nil => rw [replace_nil, occurrences]
  | found rest ih => rw [replace_append filled, occurrences_append_of_apart apart, ih]
  | kept c rest start ih =>
      have here : ¬ mark <+: c :: replace mark (first :: others) rest := by
        intro found
        obtain ⟨d, tail, rfl⟩ := List.exists_cons_of_ne_nil filled
        rw [List.cons_prefix_cons] at found start
        exact start ⟨found.1, prefix_of_prefix_replace filled rest once found.2⟩
      rw [replace_cons_of_unmarked start, occurrences, if_neg here, ih]

/-- A mark does not reach across a separator that it does not hold. -/
theorem prefix_append_separator_iff {separator : Char} (free : separator ∉ mark)
    (above below : List Char) : mark <+: above ++ separator :: below ↔ mark <+: above := by
  constructor
  · intro start
    rcases List.prefix_or_prefix_of_prefix start (List.prefix_append above (separator :: below))
      with inside | ⟨beyond, same⟩
    · exact inside
    · -- Behind what stands above, the next character of the mark would be the separator.
      subst same
      rw [List.prefix_append_right_inj] at start
      cases beyond with
      | nil => exact ⟨[], by rw [List.append_nil, List.append_nil]⟩
      | cons c tail =>
          rw [List.cons_prefix_cons] at start
          exact absurd (List.mem_append_right above (start.1 ▸ List.mem_cons_self)) free
  · exact fun start => start.trans (List.prefix_append above _)

theorem occurrences_append_separator {separator : Char} (filled : mark ≠ [])
    (free : separator ∉ mark) (above below : List Char) :
    occurrences mark (above ++ separator :: below) =
      occurrences mark above + occurrences mark below := by
  induction above with
  | nil =>
      have here : ¬ mark <+: separator :: below := by
        rw [← List.nil_append (separator :: below), prefix_append_separator_iff free,
          List.prefix_nil]
        exact filled
      simp only [List.nil_append, occurrences, if_neg here]
  | cons c rest ih =>
      have here := prefix_append_separator_iff free (c :: rest) below
      rw [List.cons_append] at here ⊢
      rw [occurrences, occurrences, ih, Nat.add_assoc]
      simp only [here]

/-- The occurrences of a mark in lines are counted line by line. -/
theorem occurrences_lines {separator : Char} (filled : mark ≠ []) (free : separator ∉ mark)
    (pieces : List (List Char)) :
    occurrences mark (pieces.flatMap (· ++ [separator])) =
      (pieces.map (occurrences mark)).sum := by
  induction pieces with
  | nil => rfl
  | cons piece rest ih =>
      rw [List.flatMap_cons, List.append_assoc, List.singleton_append,
        occurrences_append_separator filled free, ih, List.map_cons, List.sum_cons]

end Occurrences

section Lines

theorem infix_intercalate_of_mem {separator piece : List Char} {pieces : List (List Char)}
    (inside : piece ∈ pieces) : piece <:+: separator.intercalate pieces := by
  induction pieces with
  | nil => cases inside
  | cons first rest ih =>
      cases rest with
      | nil =>
          obtain rfl := List.mem_singleton.mp inside
          simp only [List.intercalate_singleton, List.infix_rfl]
      | cons second others =>
          rw [List.intercalate_cons_cons, List.append_assoc]
          rcases List.mem_cons.mp inside with rfl | later
          · exact (List.prefix_append piece _).isInfix
          · exact (ih later).trans
              ((List.suffix_append separator _).trans (List.suffix_append first _)).isInfix

/-- Every line of a text stands in the text as it is. -/
theorem infix_of_mem_lines {text line : List Char} (inside : line ∈ lines text) :
    line <:+: text := by
  have piece {found : List Char} (cut : found ∈ text.splitOn '\n') : found <:+: text := by
    have whole : found <:+: ['\n'].intercalate (text.splitOn '\n') := infix_intercalate_of_mem cut
    rwa [List.intercalate_splitOn] at whole
  simp only [lines, List.mem_append, List.mem_map, List.mem_filter] at inside
  rcases inside with ⟨found, kept, rfl⟩ | ⟨last, _⟩
  · have cut := piece (List.dropLast_subset _ kept)
    unfold dropReturn
    split
    · exact (List.dropLast_prefix found).isInfix.trans cut
    · exact cut
  · exact piece (List.mem_of_getLast? (Option.mem_toList.mp last))

end Lines

end Companion.Text
