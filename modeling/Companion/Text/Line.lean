import Companion.Text.Segment

/-!
# The lines of a text

A line ends at a line feed, and a carriage return right before that line feed belongs to the line
end. The characters after the last line feed are a line of their own unless there are none, and
keep their carriage return.
-/

namespace Companion.Text

/-- A line without the carriage return at its end. -/
def dropReturn (line : List Char) : List Char :=
  if line.getLast? = some '\r' then line.dropLast else line

/-- The text with each line after the first one moved in by four spaces. -/
def hang (text : List Char) : List Char :=
  text.flatMap fun c => if c = '\n' then "\n    ".toList else [c]

def lines (text : List Char) : List (List Char) :=
  let pieces := text.splitOn '\n'
  pieces.dropLast.map dropReturn ++ (pieces.getLast?.toList.filter (· ≠ []))

theorem mem_of_mem_dropReturn {line : List Char} {c : Char} (found : c ∈ dropReturn line) :
    c ∈ line := by
  unfold dropReturn at found
  split at found
  · exact line.dropLast_subset found
  · exact found

theorem newline_not_mem_of_mem_lines {text line : List Char} (found : line ∈ lines text) :
    '\n' ∉ line := by
  simp only [lines, List.mem_append, List.mem_map, List.mem_filter] at found
  rcases found with ⟨piece, inside, rfl⟩ | ⟨last, _⟩
  · exact fun newline =>
      not_mem_of_mem_splitOn (List.dropLast_subset _ inside) (mem_of_mem_dropReturn newline)
  · exact not_mem_of_mem_splitOn (List.mem_of_getLast? (Option.mem_toList.mp last))

end Companion.Text
