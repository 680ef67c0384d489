import Companion.Proofs.EntityClass.LineCount
import Companion.Proofs.Text.Replace

/-!
# Comment blocks end where they should

Whatever a description says, its comment block holds the end mark of a comment once, right at its
end, and has one line for each line of the description between the two lines that open and close it.
The description can be read back from the block unless it held an escaped end mark itself.
-/

namespace Companion.EntityClass

def endMark : List Char :=
  "*/".toList

def escapedEndMark : List Char :=
  "*&#47;".toList

def indentation (level indentSize : Nat) : List Char :=
  List.replicate (level * indentSize) ' '

/-- What a line inside a comment block says: without its indentation and the star before it, and with
the escaped end marks written out. -/
def spokenLine (indent line : List Char) : List Char :=
  let bare := line.drop indent.length
  Text.replace escapedEndMark endMark
    (if " * ".toList <+: bare then bare.drop 3 else bare.drop 2)

theorem endMark_ne_nil : endMark ≠ [] := by
  decide

theorem escapeEndMarks_eq_replace (line : List Char) :
    escapeEndMarks line = Text.replace endMark escapedEndMark line := by
  fun_induction escapeEndMarks line with
  | case1 rest ih =>
      rw [ih]
      exact (Text.replace_append endMark_ne_nil rest).symm
  | case2 c rest other ih =>
      have apart : ¬ endMark <+: c :: rest := by
        rintro ⟨tail, whole⟩
        obtain ⟨rfl, same⟩ := List.cons.inj whole
        exact other tail rfl same.symm
      rw [Text.replace_cons_of_unmarked apart, ih]
  | case3 => rw [Text.replace_nil]

theorem occurrences_escapeEndMarks (line : List Char) :
    Text.occurrences endMark (escapeEndMarks line) = 0 := by
  have apart : ∀ tail ∈ escapedEndMark.tails, tail ≠ [] →
      ¬ tail <+: endMark ∧ ¬ endMark <+: tail := by decide
  rw [escapeEndMarks_eq_replace]
  exact Text.occurrences_replace endMark_ne_nil (by decide) apart line

/-- A line without an escaped end mark is read back from its escaped form. -/
theorem replace_escapeEndMarks {line : List Char} (free : ¬ escapedEndMark <:+: line) :
    Text.replace escapedEndMark endMark (escapeEndMarks line) = line := by
  rw [escapeEndMarks_eq_replace]
  exact Text.replace_replace endMark_ne_nil (by decide) line free

/-- White space in front of a line holds no part of an end mark. -/
theorem occurrences_indentation (level indentSize : Nat) (text : List Char) :
    Text.occurrences endMark (indentation level indentSize ++ text) =
      Text.occurrences endMark text := by
  refine Text.occurrences_append_of_apart ?_ text
  intro tail last filled
  obtain ⟨c, others, rfl⟩ := List.exists_cons_of_ne_nil filled
  have inside : c ∈ indentation level indentSize :=
    ((List.mem_tails _ _).mp last).subset List.mem_cons_self
  rw [List.eq_of_mem_replicate inside, endMark]
  simp

/-- The star before a line forms no end mark with it, even if the line begins with a slash. -/
theorem occurrences_documentationRow (level : Nat) (line : List Char) :
    Text.occurrences endMark (documentationRow level line).text = 0 := by
  unfold documentationRow
  split
  · exact (by decide : Text.occurrences endMark " *".toList = 0)
  · have apart : ∀ tail ∈ " * ".toList.tails, tail ≠ [] →
        ¬ tail <+: endMark ∧ ¬ endMark <+: tail := by decide
    rw [Text.occurrences_append_of_apart apart]
    exact occurrences_escapeEndMarks line

theorem spokenLine_documentationRow (level indentSize : Nat) {line : List Char}
    (free : ¬ escapedEndMark <:+: line) :
    spokenLine (indentation level indentSize)
      (indentation level indentSize ++ (documentationRow level line).text) = line := by
  rw [spokenLine, List.drop_left]
  unfold documentationRow
  split
  · next empty =>
      have bare : ¬ " * ".toList <+: " *".toList := by decide
      rw [if_neg bare, empty]
      exact Text.replace_nil
  · rw [if_pos (List.prefix_append " * ".toList _), List.drop_left' (by decide)]
    exact replace_escapeEndMarks free

theorem layout_documentationRow (level indentSize : Nat) (line : List Char) :
    (documentationRow level line).layout indentSize =
      indentation level indentSize ++ (documentationRow level line).text ++ ['\n'] := by
  unfold documentationRow
  split <;> rfl

/-- The comment block as lines: one that opens it, one for each line of the description, and one that
closes it. -/
theorem layout_documentation (level indentSize : Nat) (description : String) :
    (documentation level description).flatMap (Row.layout indentSize) =
      ((indentation level indentSize ++ "/**".toList) ::
        (Text.lines description.toList).map
          (fun line => indentation level indentSize ++ (documentationRow level line).text) ++
        [indentation level indentSize ++ ' ' :: endMark]).flatMap (· ++ ['\n']) := by
  simp only [documentation, List.flatMap_append, List.flatMap_cons, List.flatMap_map,
    List.flatMap_nil, layout_documentationRow]
  rfl

/-- Neither the row that opens the block nor those of the description hold an end mark, and the row
that closes it holds one. -/
theorem occurrences_documentation (level indentSize : Nat) (description : String) :
    Text.occurrences endMark
      ((documentation level description).flatMap (Row.layout indentSize)) = 1 := by
  have opening : Text.occurrences endMark "/**".toList = 0 := by decide
  have closing : Text.occurrences endMark (' ' :: endMark) = 1 := by decide
  rw [layout_documentation, Text.occurrences_lines endMark_ne_nil (by decide)]
  simp only [List.map_append, List.map_cons, List.map_map, List.map_nil, List.sum_append,
    List.sum_cons, List.sum_nil, Function.comp_def, occurrences_indentation,
    occurrences_documentationRow, opening, closing]
  rw [List.map_const', List.sum_replicate]
  simp

/-- The text of a comment block: it opens and closes as a comment does, its end mark stands in it
once, and each line between belongs to one line of the description, which is read back from it. -/
theorem comment_block_of_description (level indentSize : Nat) (description : String) :
    ∃ (text : List Char) (inner : List (List Char)),
      text = (documentation level description).flatMap (Row.layout indentSize) ∧
      text = ((indentation level indentSize ++ "/**".toList) :: inner ++
        [indentation level indentSize ++ ' ' :: endMark]).flatMap (· ++ ['\n']) ∧
      (∀ line ∈ inner, '\n' ∉ line ∧ indentation level indentSize <+: line) ∧
      inner.length = (Text.lines description.toList).length ∧
      text.count '\n' = (Text.lines description.toList).length + 2 ∧
      Text.occurrences endMark text = 1 ∧
      (¬ escapedEndMark <:+: description.toList →
        inner.map (spokenLine (indentation level indentSize)) =
          Text.lines description.toList) := by
  refine ⟨_, _, rfl, layout_documentation level indentSize description, ?_, ?_, ?_, ?_, ?_⟩
  · intro line inside
    obtain ⟨spoken, found, rfl⟩ := List.mem_map.mp inside
    have clean := newline_not_mem_documentationRow level (Text.newline_not_mem_of_mem_lines found)
    refine ⟨fun newline => ?_, List.prefix_append _ _⟩
    rcases List.mem_append.mp newline with white | said
    · cases List.eq_of_mem_replicate white
    · exact clean said
  · rw [List.length_map]
  · rw [count_newline_flatMap_layout, height_documentation]
  · exact occurrences_documentation level indentSize description
  · intro free
    rw [List.map_map]
    refine (List.map_congr_left fun line found => ?_).trans (List.map_id _)
    exact spokenLine_documentationRow level indentSize fun inside =>
      free (inside.trans (Text.infix_of_mem_lines found))

/-- A description with end marks that overlap, at the start of a line and across an empty line. -/
theorem comment_block_of_overlaps :
    ¬ escapedEndMark <:+: "**//\n/x\r\n\n*/*/\r".toList ∧
      ∃ (text : List Char) (inner : List (List Char)),
        text = (documentation 1 "**//\n/x\r\n\n*/*/\r").flatMap (Row.layout 4) ∧
        Text.occurrences endMark text = 1 ∧
        (∃ line ∈ inner, '\n' ∉ line ∧ "    ".toList <+: line) ∧
        inner.map (spokenLine (indentation 1 4)) =
          ["**//".toList, "/x".toList, [], "*/*/\r".toList] := by
  have free : ¬ escapedEndMark <:+: "**//\n/x\r\n\n*/*/\r".toList := by decide
  obtain ⟨text, inner, written, _, rows, length, _, once, spoken⟩ :=
    comment_block_of_description 1 4 "**//\n/x\r\n\n*/*/\r"
  have filled : 0 < inner.length := by
    rw [length]
    decide
  have first := List.getElem_mem filled
  exact ⟨free, text, inner, written, once, ⟨_, first, rows _ first⟩,
    (spoken free).trans (by decide)⟩

end Companion.EntityClass
