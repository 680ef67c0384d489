import Companion.Proofs.EntityClass.CommentBlock
import Companion.Proofs.EntityClass.SettingsParts

/-!
# Indentation is only white space

A row whose text holds line feeds takes up several lines, and only the first of them is moved in. So
a source is a list of rows without line feeds, one for each line, and the indentation decides
nothing but the number of spaces before each of them. Two sources with different indentation have
the same lines once these spaces are taken away, even where a name or a description begins with
spaces of its own.
-/

namespace Companion

namespace Text

def unindented (line : List Char) : List Char :=
  line.dropWhile (· = ' ')

theorem dropReturn_append {margin : List Char} (free : '\r' ∉ margin) (line : List Char) :
    dropReturn (margin ++ line) = margin ++ dropReturn line := by
  unfold dropReturn
  by_cases empty : line = []
  · have kept : margin.getLast? ≠ some '\r' := fun last => free (List.mem_of_getLast? last)
    simp [empty, kept]
  · rw [List.getLast?_append_of_ne_nil margin empty, List.dropLast_append_of_ne_nil empty]
    exact (apply_ite (margin ++ ·) _ _ _).symm

theorem intercalate_newline (first : List Char) (others : List (List Char)) :
    ['\n'].intercalate (first :: others) ++ ['\n'] =
      first ++ ['\n'] ++ others.flatMap (· ++ ['\n']) := by
  induction others generalizing first with
  | nil => simp
  | cons second others ih =>
      rw [List.intercalate_cons_cons, List.append_assoc, ih, List.flatMap_cons]

end Text

namespace EntityClass

/-- The lines of a row as rows of their own: the first at the level of the row, and the others, which
begin after a line feed in its text, at the left margin. -/
def Row.cut (row : Row) : List Row :=
  match row.text.splitOn '\n' with
  | [] => []
  | first :: others => ⟨row.level, first⟩ :: others.map (Row.mk 0)

theorem newline_not_mem_cut {row line : Row} (inside : line ∈ row.cut) : '\n' ∉ line.text := by
  unfold Row.cut at inside
  split at inside
  · cases inside
  · next first others pieces =>
      rcases List.mem_cons.mp inside with rfl | later
      · exact Text.not_mem_of_mem_splitOn (pieces ▸ List.mem_cons_self)
      · obtain ⟨piece, found, rfl⟩ := List.mem_map.mp later
        exact Text.not_mem_of_mem_splitOn (pieces ▸ List.mem_cons_of_mem first found)

/-- A row that is cut is written like the whole row, whatever the indentation. -/
theorem layout_cut (indentSize : Nat) (row : Row) :
    row.cut.flatMap (Row.layout indentSize) = row.layout indentSize := by
  have margin (piece : List Char) : Row.layout indentSize ⟨0, piece⟩ = piece ++ ['\n'] := by
    simp [Row.layout]
  unfold Row.cut
  cases pieces : row.text.splitOn '\n' with
  | nil => exact absurd pieces (List.splitOn_ne_nil '\n' row.text)
  | cons first others =>
      have whole : row.text = ['\n'].intercalate (first :: others) := by
        rw [← pieces, List.intercalate_splitOn]
      rw [List.flatMap_cons, List.flatMap_map]
      simp only [margin]
      rw [Row.layout, Row.layout, whole, List.append_assoc, List.append_assoc, List.append_assoc,
        Text.intercalate_newline, List.append_assoc]

/-- The rows of a text, cut at the line feeds in them, are written like the rows themselves. -/
theorem laidOut_cut (indentSize : Nat) (rows : List Row) :
    laidOut indentSize (rows.flatMap Row.cut) = laidOut indentSize rows := by
  rw [laidOut, laidOut, List.flatMap_assoc]
  simp only [layout_cut]

/-- Rows without line feeds are the lines of their text, each behind its indentation. -/
theorem splitOn_layout {rows : List Row} (clean : ∀ row ∈ rows, '\n' ∉ row.text)
    (indentSize : Nat) :
    (rows.flatMap (Row.layout indentSize)).splitOn '\n' =
      rows.map (fun row => indentation row.level indentSize ++ row.text) ++ [[]] := by
  induction rows with
  | nil => rfl
  | cons row rest ih =>
      have free : '\n' ∉ indentation row.level indentSize ++ row.text := by
        intro newline
        rcases List.mem_append.mp newline with white | said
        · cases List.eq_of_mem_replicate white
        · exact clean row List.mem_cons_self said
      have line : Row.layout indentSize row ++ rest.flatMap (Row.layout indentSize) =
          (indentation row.level indentSize ++ row.text) ++
            '\n' :: rest.flatMap (Row.layout indentSize) := by
        simp [Row.layout, indentation]
      rw [List.flatMap_cons, line, List.splitOn_append_cons_self, List.splitOn_eq_singleton free,
        ih fun other inside => clean other (List.mem_cons_of_mem row inside)]
      rfl

theorem lines_laidOut {rows : List Row} (clean : ∀ row ∈ rows, '\n' ∉ row.text)
    (indentSize : Nat) :
    Text.lines (laidOut indentSize rows).toList =
      rows.map fun row => indentation row.level indentSize ++ Text.dropReturn row.text := by
  have free (level : Nat) : '\r' ∉ indentation level indentSize := by
    intro inside
    cases List.eq_of_mem_replicate inside
  rw [Text.lines, laidOut, String.toList_ofList, splitOn_layout clean]
  simp [Text.dropReturn_append (free _)]

/-- What is left of a line without its spaces does not depend on its indentation. -/
theorem unindented_indentation (level indentSize : Nat) (line : List Char) :
    Text.unindented (indentation level indentSize ++ line) = Text.unindented line := by
  refine List.dropWhile_append_of_pos fun c inside => ?_
  simp [List.eq_of_mem_replicate inside]

/-- The lines of some rows without their spaces, whatever the indentation. -/
theorem unindented_lines_laidOut {rows : List Row} (clean : ∀ row ∈ rows, '\n' ∉ row.text)
    (indentSize : Nat) :
    (Text.lines (laidOut indentSize rows).toList).map Text.unindented =
      rows.map fun row => Text.unindented (Text.dropReturn row.text) := by
  rw [lines_laidOut clean, List.map_map]
  exact List.map_congr_left fun row _ => unindented_indentation row.level indentSize _

/-- One list of rows, each a line, gives the source for every indentation. -/
theorem source_indentation (settings : Settings) (c : EntityClass) (indentSize : Nat) :
    c.source { settings with indentSize } =
      laidOut indentSize ((c.rows settings).flatMap Row.cut) := by
  rw [laidOut_cut]
  rfl

end EntityClass

namespace Template

/-- Under settings that differ in the indentation alone, a descriptor is refused for the same reason
or rendered as the same lines, each moved in by its own level and by nothing else. -/
theorem indentation_of_render (settings : Settings) (d : Descriptor) :
    (∃ error, ∀ indentSize,
      ((entity { settings with indentSize }).render d).run.value = .error error) ∨
    ∃ (source : Nat → String) (rows : List EntityClass.Row),
      (∀ indentSize,
        ((entity { settings with indentSize }).render d).run.value = .ok (source indentSize)) ∧
      (∀ row ∈ rows, '\n' ∉ row.text) ∧
      (∀ indentSize, source indentSize = EntityClass.laidOut indentSize rows) ∧
      ∀ a b,
        (Text.lines (source a).toList).length = (Text.lines (source b).toList).length ∧
        (Text.lines (source a).toList).map Text.unindented =
          (Text.lines (source b).toList).map Text.unindented := by
  cases resolved : (EntityClass.ofDescriptor d).run.value with
  | error error => exact Or.inl ⟨error, fun _ => render_eq_error_iff.mpr resolved⟩
  | ok c =>
      have clean : ∀ row ∈ (c.rows settings).flatMap EntityClass.Row.cut, '\n' ∉ row.text := by
        intro row inside
        obtain ⟨_, _, line⟩ := List.mem_flatMap.mp inside
        exact EntityClass.newline_not_mem_cut line
      refine Or.inr ⟨_, _, fun _ => render_of_ofDescriptor resolved _, clean,
        EntityClass.source_indentation settings c, fun a b => ?_⟩
      rw [EntityClass.source_indentation, EntityClass.source_indentation]
      constructor
      · rw [EntityClass.lines_laidOut clean, EntityClass.lines_laidOut clean, List.length_map,
          List.length_map]
      · rw [EntityClass.unindented_lines_laidOut clean, EntityClass.unindented_lines_laidOut clean]

end Template

end Companion
