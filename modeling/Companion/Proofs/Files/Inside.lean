import Companion.Proofs.Files.Contents

/-!
# Files directly inside a directory

A plain name is one that is its own last part: it is not empty, has no slash in it and is neither
of the two dotted names. Joined to the path of a directory it leads to the directory first, and from
there to the file of that name in it, so never to a place outside.
-/

namespace Companion

namespace Path

/-- No part of a path is empty or can be cut further. -/
theorem of_mem_parts {path part : String} (inside : part ∈ parts path) :
    part ≠ "" ∧ '/' ∉ part.toList := by
  obtain ⟨piece, kept, rfl⟩ := List.mem_map.mp inside
  obtain ⟨cut, filled⟩ := List.mem_filter.mp kept
  rw [String.toList_ofList]
  exact ⟨by simpa using filled, Text.not_mem_of_mem_splitOn cut⟩

/-- A name without a slash is the last part of every path that it is appended to. -/
theorem parts_of_toList_eq {path name : String} {before : List Char} (filled : name ≠ "")
    (whole : '/' ∉ name.toList) (glued : path.toList = before ++ '/' :: name.toList) :
    parts path = parts (String.ofList before) ++ [name] := by
  have letters : name.toList ≠ [] := fun none => filled (String.toList_eq_nil_iff.mp none)
  rw [parts, parts, glued, List.splitOn_append_cons_self, List.splitOn_eq_singleton whole,
    String.toList_ofList]
  simp [letters]

theorem parts_of_slash_not_mem {name : String} (filled : name ≠ "") (whole : '/' ∉ name.toList) :
    parts name = [name] := by
  have letters : name.toList ≠ [] := fun none => filled (String.toList_eq_nil_iff.mp none)
  rw [parts, List.splitOn_eq_singleton whole]
  simp [letters]

/-- The plain names are those that are their own last part. -/
theorem fileName?_eq_some_self_iff (name : String) :
    fileName? name = some name ↔
      name ≠ "" ∧ '/' ∉ name.toList ∧ name ≠ "." ∧ name ≠ ".." := by
  constructor
  · intro last
    unfold fileName? at last
    split at last
    · next found =>
        split at last
        · cases last
        · next notParent =>
            cases last
            obtain ⟨inside, notHere⟩ := List.mem_filter.mp (List.mem_of_getLast? found)
            obtain ⟨filled, whole⟩ := of_mem_parts inside
            exact ⟨filled, whole, by simpa using notHere, notParent⟩
    · cases last
  · rintro ⟨filled, whole, notHere, notParent⟩
    rw [fileName?, parts_of_slash_not_mem filled whole]
    simp [notHere, notParent]

theorem isPlainName_eq_true_iff (name : String) :
    isPlainName name = true ↔ fileName? name = some name := by
  rw [fileName?_eq_some_self_iff]
  simp [isPlainName, and_assoc, and_comm]

/-- A slash at the end of a path adds no part to it. -/
theorem parts_of_slash_last {path : String} {before : List Char}
    (glued : path.toList = before ++ ['/']) : parts path = parts (String.ofList before) := by
  rw [parts, parts, glued, List.splitOn_append_cons_self, String.toList_ofList]
  simp

theorem parts_join {directory name : String} (filled : name ≠ "") (whole : '/' ∉ name.toList) :
    parts (join directory name) = parts directory ++ [name] := by
  by_cases here : directory = ""
  · have noParts : parts "" = [] := by rfl
    rw [join, if_pos (Or.inl here), here, noParts, String.empty_append,
      parts_of_slash_not_mem filled whole, List.nil_append]
  · by_cases slash : endsInSlash directory = true
    · obtain ⟨before, cut⟩ := List.getLast?_eq_some_iff.mp (of_decide_eq_true slash)
      have glued : (directory ++ name).toList = before ++ '/' :: name.toList := by
        rw [String.toList_append, cut, List.append_assoc, List.singleton_append]
      rw [join, if_pos (Or.inr slash), parts_of_toList_eq filled whole glued,
        parts_of_slash_last cut]
    · have glued : (directory ++ "/" ++ name).toList = directory.toList ++ '/' :: name.toList := by
        simp
      rw [join, if_neg (not_or.mpr ⟨here, slash⟩), parts_of_toList_eq filled whole glued,
        String.ofList_toList]

theorem exists_join_eq_append (directory name : String) :
    ∃ rest, join directory name = directory ++ rest := by
  unfold join
  split
  · exact ⟨name, rfl⟩
  · exact ⟨"/" ++ name, String.append_assoc⟩

/-- Joining does not change where a path starts from. -/
theorem isAbsolute_join {directory name : String} (whole : '/' ∉ name.toList) :
    isAbsolute (join directory name) = isAbsolute directory := by
  by_cases here : directory = ""
  · have relative : isAbsolute name = false := by
      rw [isAbsolute, decide_eq_false_iff_not]
      intro first
      exact whole (List.mem_of_head? first)
    rw [join, if_pos (Or.inl here), here, String.empty_append, relative]
    rfl
  · obtain ⟨rest, same⟩ := exists_join_eq_append directory name
    obtain ⟨first, others, letters⟩ := List.exists_cons_of_ne_nil
      (fun none => here (String.toList_eq_nil_iff.mp none) : directory.toList ≠ [])
    rw [same, isAbsolute, isAbsolute, String.toList_append, letters]
    rfl

theorem isUsable_of_join {directory name : String} (usable : isUsable (join directory name) = true) :
    isUsable directory = true := by
  obtain ⟨rest, same⟩ := exists_join_eq_append directory name
  rw [same] at usable
  simp only [isUsable, String.utf8ByteSize_append, String.toList_append, Bool.and_eq_true,
    decide_eq_true_eq, Bool.not_eq_true', List.contains_eq_mem, decide_eq_false_iff_not,
    List.mem_append, not_or] at usable ⊢
  exact ⟨by omega, usable.2.1⟩

end Path

namespace Tree

variable {tree : Tree}

theorem follow_append (tree : Tree) (here : Location) (first second : List String) :
    tree.follow here (first ++ second) =
      (tree.follow here first).bind fun there => tree.follow there second := by
  induction first generalizing here with
  | nil => rfl
  | cons part rest ih =>
      rw [List.cons_append, follow, follow]
      split_ifs with blocked dot up long
      · rfl
      · exact ih here
      · exact ih here.dropLast
      · rfl
      · exact ih (here ++ [part])

/-- The location of the directory that a path leads to. The empty path stands for the directory that
relative paths start from. -/
def directoryAt? (tree : Tree) (path : String) : Option Location :=
  if path = "" then some tree.workingDirectory else tree.locate? path

/-- A plain name in a directory leads to that name directly inside the directory. -/
theorem locate?_join {directory name : String} {location : Location}
    (plain : Path.isPlainName name = true)
    (found : tree.locate? (Path.join directory name) = some location) :
    ∃ home, tree.directoryAt? directory = some home ∧ tree.entryAt? home = some .directory ∧
      location = home ++ [name] := by
  obtain ⟨filled, whole, notHere, notParent⟩ :=
    (Path.fileName?_eq_some_self_iff name).mp ((Path.isPlainName_eq_true_iff name).mp plain)
  unfold locate? at found
  split at found
  · next usable =>
      rw [origin, Path.isAbsolute_join whole, Path.parts_join filled whole, follow_append] at found
      obtain ⟨home, led, last⟩ := Option.bind_eq_some_iff.mp found
      have reached : tree.directoryAt? directory = some home := by
        by_cases here : directory = ""
        · subst here
          exact led
        · rw [directoryAt?, if_neg here, locate?,
            if_pos ⟨here, Path.isUsable_of_join usable.2⟩]
          exact led
      refine ⟨home, reached, ?_⟩
      rw [follow] at last
      split_ifs at last with blocked long
      rw [follow, Option.some.injEq] at last
      exact ⟨Decidable.not_not.mp blocked, last.symm⟩
  · cases found

end Tree

end Companion
