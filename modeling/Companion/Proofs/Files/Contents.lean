import Mathlib.Tactic.SplitIfs
import Companion.Files.Tree

/-!
# What happens to the files of a tree

Making directories only puts directories where nothing was, on the way to the one that is asked for,
so no file is touched. Writing puts one file where no directory is, and no other file is touched.
Neither takes a directory away, so every path still leads where it led before.
-/

namespace Companion

namespace Tree

def fileAt? (tree : Tree) (location : Location) : Option ByteArray :=
  match tree.entryAt? location with
  | some (.file content) => some content
  | _ => none

def SameFiles (before after : Tree) : Prop :=
  ∀ location, after.fileAt? location = before.fileAt? location

def SameFilesBut (kept : Location) (before after : Tree) : Prop :=
  ∀ location, location ≠ kept → after.fileAt? location = before.fileAt? location

namespace SameFiles

variable {first second third : Tree}

theorem refl (tree : Tree) : SameFiles tree tree :=
  fun _ => rfl

theorem trans_but {kept : Location} (early : SameFiles first second)
    (late : SameFilesBut kept second third) : SameFilesBut kept first third :=
  fun location other => (late location other).trans (early location)

end SameFiles

theorem ne_root_of_entryAt? {tree : Tree} {location : Location}
    (vacant : tree.entryAt? location ≠ some .directory) : location ≠ [] := by
  rintro rfl
  exact vacant (entryAt?_root tree)

theorem entryAt?_put_of_ne {tree : Tree} {location other : Location} (entry : Entry)
    (below : location ≠ []) (apart : location ≠ other) :
    (tree.put location entry).entryAt? other = tree.entryAt? other := by
  rw [entryAt?_put tree other entry below, if_neg apart]

theorem entryAt?_put_self {tree : Tree} {location : Location} (entry : Entry)
    (below : location ≠ []) : (tree.put location entry).entryAt? location = some entry := by
  rw [entryAt?_put tree location entry below, if_pos rfl]

theorem sameFilesBut_put {tree : Tree} {location : Location} (entry : Entry)
    (below : location ≠ []) : SameFilesBut location tree (tree.put location entry) := by
  intro other apart
  rw [fileAt?, fileAt?, entryAt?_put_of_ne entry below apart.symm]

/-- The locations that some parts lead to from a directory, one after another. -/
def way (here : Location) : List String → List Location
  | [] => []
  | part :: rest =>
      let next :=
        if part = "." then here
        else if part = ".." then here.dropLast
        else here ++ [part]
      next :: way next rest

def wayTo (tree : Tree) (path : String) : List Location :=
  way (tree.origin path) (Path.parts path)

theorem way_subset_way {here : Location} {first whole : List String}
    (start : first <+: whole) : way here first ⊆ way here whole := by
  induction first generalizing here whole with
  | nil => exact List.nil_subset _
  | cons part rest ih =>
      cases whole with
      | nil => exact absurd (List.prefix_nil.mp start) (List.cons_ne_nil part rest)
      | cons other others =>
          obtain ⟨rfl, more⟩ := List.cons_prefix_cons.mp start
          exact List.cons_subset_cons _ (ih more)

/-- What is at a location stays there, or nothing was there and it is now a directory on the way. -/
def KeptOrMade (passed : List Location) (before after : Tree) (location : Location) : Prop :=
  after.entryAt? location = before.entryAt? location ∨
    (before.entryAt? location = none ∧ after.entryAt? location = some .directory ∧
      location ∈ passed)

namespace KeptOrMade

variable {passed longer : List Location} {first second third : Tree} {location : Location}

theorem refl (passed : List Location) (tree : Tree) (location : Location) :
    KeptOrMade passed tree tree location :=
  Or.inl rfl

theorem of_subset (kept : KeptOrMade passed first second location) (within : passed ⊆ longer) :
    KeptOrMade longer first second location := by
  rcases kept with same | ⟨missing, made, inside⟩
  · exact Or.inl same
  · exact Or.inr ⟨missing, made, within inside⟩

theorem trans (early : KeptOrMade passed first second location)
    (late : KeptOrMade passed second third location) :
    KeptOrMade passed first third location := by
  rcases early with same | ⟨missing, made, inside⟩
  · rcases late with still | ⟨missing, made, inside⟩
    · exact Or.inl (still.trans same)
    · exact Or.inr ⟨same.symm.trans missing, made, inside⟩
  · rcases late with still | ⟨gone, _, _⟩
    · exact Or.inr ⟨missing, still.trans made, inside⟩
    · rw [made] at gone
      cases gone

/-- A directory where nothing was is no change to the files. -/
theorem fileAt? (kept : KeptOrMade passed first second location) :
    second.fileAt? location = first.fileAt? location := by
  rcases kept with same | ⟨missing, made, _⟩
  · rw [Tree.fileAt?, Tree.fileAt?, same]
  · rw [Tree.fileAt?, Tree.fileAt?, missing, made]

theorem directory (kept : KeptOrMade passed first second location)
    (stands : first.entryAt? location = some .directory) :
    second.entryAt? location = some .directory := by
  rcases kept with same | ⟨_, made, _⟩
  · exact same.trans stands
  · exact made

end KeptOrMade

theorem keptOrMade_put_directory {tree : Tree} {location : Location} {passed : List Location}
    (missing : tree.entryAt? location = none) (inside : location ∈ passed) (other : Location) :
    KeptOrMade passed tree (tree.put location .directory) other := by
  have below : location ≠ [] := ne_root_of_entryAt? (by rw [missing]; exact nofun)
  by_cases same : other = location
  · rw [same]
    exact Or.inr ⟨missing, entryAt?_put_self .directory below, inside⟩
  · exact Or.inl (entryAt?_put_of_ne .directory below (Ne.symm same))

/-- However far the directories get made, all else stays as it is. -/
theorem keptOrMade_makeParts (tree : Tree) (here : Location) (parts : List String)
    (location : Location) :
    KeptOrMade (way here parts) tree (tree.makeParts here parts).tree location := by
  fun_induction makeParts tree here parts with
  | case1 => exact .refl _ _ _
  | case2 tree here rest ih =>
      exact ih.of_subset (List.subset_cons_self _ _)
  | case3 tree here rest _ ih =>
      exact ih.of_subset (List.subset_cons_self _ _)
  | case4 => exact .refl _ _ _
  | case5 tree here part rest dot up _ next _ ih =>
      rw [way, if_neg dot, if_neg up]
      exact ih.of_subset (List.subset_cons_self _ _)
  | case6 => exact .refl _ _ _
  | case7 tree here part rest dot up _ next missing ih =>
      rw [way, if_neg dot, if_neg up]
      exact (keptOrMade_put_directory missing List.mem_cons_self location).trans
        (ih.of_subset (List.subset_cons_self _ _))

theorem keptOrMade_makeDirectories (tree : Tree) (path : String) (location : Location) :
    KeptOrMade (tree.wayTo path) tree (tree.makeDirectories path).tree location := by
  unfold makeDirectories wayTo
  split
  · exact .refl _ _ _
  · split
    · exact .refl _ _ _
    · dsimp only
      split
      · exact keptOrMade_makeParts tree _ _ location
      · -- Only the parts before the single dots at the end are made, which are the first ones.
        have ending := List.dropWhile_suffix (· = ".") (l := (Path.parts path).reverse)
        have start := List.reverse_prefix.mpr ending
        rw [List.reverse_reverse] at start
        exact (keptOrMade_makeParts tree _ _ location).of_subset
          (way_subset_way ((List.dropLast_prefix _).trans start))

theorem sameFiles_makeDirectories (tree : Tree) (path : String) :
    SameFiles tree (tree.makeDirectories path).tree :=
  fun location => (keptOrMade_makeDirectories tree path location).fileAt?

/-- Paths start from the same place in both trees, and every directory of the first one stands in the
second one. -/
structure KeepsDirectories (before after : Tree) : Prop where
  workingDirectory : after.workingDirectory = before.workingDirectory
  directory : ∀ location, before.entryAt? location = some .directory →
    after.entryAt? location = some .directory

namespace KeepsDirectories

variable {before after : Tree}

/-- On the way to a location there are only directories, so the way stays open while they stand. -/
theorem follow (keeps : KeepsDirectories before after) {here location : Location}
    {parts : List String} (found : before.follow here parts = some location) :
    after.follow here parts = some location := by
  induction parts generalizing here with
  | nil => simpa only [Tree.follow] using found
  | cons part rest ih =>
      unfold Tree.follow at found ⊢
      by_cases stands : before.entryAt? here = some .directory
      · rw [keeps.directory here stands]
        simp only [stands, ne_eq, not_true_eq_false, if_false] at found ⊢
        split_ifs at found ⊢ with dot up long
        · exact ih found
        · exact ih found
        · exact ih found
      · rw [if_pos stands] at found
        cases found

theorem locate? (keeps : KeepsDirectories before after) {path : String} {location : Location}
    (found : before.locate? path = some location) : after.locate? path = some location := by
  unfold Tree.locate? at found ⊢
  split at found
  · next usable =>
      rw [if_pos usable, origin, keeps.workingDirectory]
      exact keeps.follow found
  · cases found

end KeepsDirectories

theorem workingDirectory_makeParts (tree : Tree) (here : Location) (parts : List String) :
    (tree.makeParts here parts).tree.workingDirectory = tree.workingDirectory := by
  fun_induction makeParts tree here parts with
  | case1 => rfl
  | case2 _ _ _ ih => exact ih
  | case3 _ _ _ _ ih => exact ih
  | case4 => rfl
  | case5 _ _ _ _ _ _ _ _ _ ih => exact ih
  | case6 => rfl
  | case7 _ _ _ _ _ _ _ _ _ ih => exact ih

theorem keepsDirectories_makeDirectories (tree : Tree) (path : String) :
    KeepsDirectories tree (tree.makeDirectories path).tree where
  workingDirectory := by
    unfold makeDirectories
    split
    · rfl
    · split
      · rfl
      · dsimp only
        split <;> exact workingDirectory_makeParts tree _ _
  directory location := (keptOrMade_makeDirectories tree path location).directory

/-- What is put where no directory is leaves all directories. -/
theorem keepsDirectories_put {tree : Tree} {location : Location} (entry : Entry)
    (vacant : tree.entryAt? location ≠ some .directory) :
    KeepsDirectories tree (tree.put location entry) where
  workingDirectory := rfl
  directory other stands := by
    have apart : location ≠ other := by
      rintro rfl
      exact vacant stands
    rw [entryAt?_put_of_ne entry (ne_root_of_entryAt? vacant) apart, stands]

/-- When a file can be written, and which tree comes of it. -/
theorem write?_eq_some_iff {tree after : Tree} {path : String} {content : ByteArray} :
    tree.write? path content = some after ↔
      ∃ location, tree.locate? path = some location ∧ Path.endsInSlash path = false ∧
        tree.entryAt? location ≠ some .directory ∧ after = tree.put location (.file content) := by
  unfold write?
  cases found : tree.locate? path with
  | none => simp
  | some location =>
      simp only [Option.bind_eq_bind, Option.bind_some, Option.some.injEq, exists_eq_left']
      cases slash : Path.endsInSlash path with
      | true => simp
      | false =>
          by_cases vacant : tree.entryAt? location = some .directory
          · simp [vacant]
          · simp [vacant, eq_comm]

/-- What was written is read back, and no other file is touched. -/
theorem written_of_write? {tree after : Tree} {path : String} {content : ByteArray}
    (written : tree.write? path content = some after) :
    ∃ location, after.locate? path = some location ∧ after.read? path = some content ∧
      SameFilesBut location tree after := by
  obtain ⟨location, found, noSlash, vacant, rfl⟩ := write?_eq_some_iff.mp written
  have below := ne_root_of_entryAt? vacant
  have located := (keepsDirectories_put (.file content) vacant).locate? found
  refine ⟨location, located, ?_, sameFilesBut_put _ below⟩
  rw [read?, located]
  simp [entryAt?_put_self (.file content) below, noSlash]

end Tree

end Companion
