import Std.Data.ExtTreeMap.Lemmas
import Companion.Files.Path

/-!
# File trees

The files and directories below a root, and the directory that relative paths start from. A
location is the list of names from the root down; the root itself is always a directory.
-/

namespace Companion

/-- The names on the way from the root to a file or directory. -/
abbrev Location : Type :=
  List String

inductive Entry where
  | directory
  | file (content : ByteArray)

instance : DecidableEq Entry
  | .directory, .directory => isTrue rfl
  | .directory, .file _ => isFalse Entry.noConfusion
  | .file _, .directory => isFalse Entry.noConfusion
  | .file a, .file b =>
      match ByteArray.instDecidableEq a b with
      | isTrue same => isTrue (congrArg Entry.file same)
      | isFalse differ => isFalse fun same => differ (Entry.file.inj same)

structure Tree where
  entries : Std.ExtTreeMap Location Entry := ∅
  workingDirectory : Location := []

namespace Tree

instance : EmptyCollection Tree := ⟨{}⟩

def entryAt? (tree : Tree) (location : Location) : Option Entry :=
  if location = [] then some .directory else tree.entries[location]?

def put (tree : Tree) (location : Location) (entry : Entry) : Tree :=
  { tree with entries := tree.entries.insert location entry }

@[simp] theorem entryAt?_root (tree : Tree) : tree.entryAt? [] = some .directory :=
  rfl

theorem entryAt?_put (tree : Tree) {location : Location} (other : Location) (entry : Entry)
    (below : location ≠ []) :
    (tree.put location entry).entryAt? other =
      if location = other then some entry else tree.entryAt? other := by
  by_cases h : other = []
  · subst h
    simp [below]
  · simp [entryAt?, put, h, Std.ExtTreeMap.getElem?_insert]

/--
The location that some parts lead to from a directory. Every part but the last has to lead to a
directory that exists.
-/
def follow (tree : Tree) (here : Location) : List String → Option Location
  | [] => some here
  | part :: rest =>
      if tree.entryAt? here ≠ some .directory then none
      else if part = "." then tree.follow here rest
      else if part = ".." then tree.follow here.dropLast rest
      else if Path.longestName < part.utf8ByteSize then none
      else tree.follow (here ++ [part]) rest

def origin (tree : Tree) (path : String) : Location :=
  if Path.isAbsolute path then [] else tree.workingDirectory

def locate? (tree : Tree) (path : String) : Option Location :=
  if path ≠ "" ∧ Path.isUsable path then
    tree.follow (tree.origin path) (Path.parts path)
  else none

def read? (tree : Tree) (path : String) : Option ByteArray := do
  let location ← tree.locate? path
  match tree.entryAt? location with
  | some (.file content) => if Path.endsInSlash path then none else some content
  | _ => none

/-- The tree with the given content in the file that a path means. The directory of the file has to
exist. -/
def write? (tree : Tree) (path : String) (content : ByteArray) : Option Tree := do
  let location ← tree.locate? path
  if Path.endsInSlash path ∨ tree.entryAt? location = some .directory then none
  else some (tree.put location (.file content))

/-- The outcome of making directories: the tree with those made, and whether all are there now. -/
structure Making where
  tree : Tree
  complete : Bool

def makeParts (tree : Tree) (here : Location) : List String → Making
  | [] => ⟨tree, true⟩
  | part :: rest =>
      if part = "." then tree.makeParts here rest
      else if part = ".." then tree.makeParts here.dropLast rest
      else if Path.longestName < part.utf8ByteSize then ⟨tree, false⟩
      else
        let next := here ++ [part]
        match tree.entryAt? next with
        | some .directory => tree.makeParts next rest
        | some (.file _) => ⟨tree, false⟩
        | none => (tree.put next .directory).makeParts next rest

def leadsToDirectory (tree : Tree) (here : Location) (parts : List String) : Bool :=
  match tree.follow here parts with
  | some location => tree.entryAt? location = some .directory
  | none => false

/--
Makes the directory that a path means, with all directories on the way. What a single dot at the end
of the path stands in is not made: it has to be there.
-/
def makeDirectories (tree : Tree) (path : String) : Making :=
  if path = "" then ⟨tree, true⟩
  else if !Path.isUsable path then ⟨tree, false⟩
  else
    let here := tree.origin path
    let parts := Path.parts path
    let named := (parts.reverse.dropWhile (· = ".")).reverse
    if named = parts then tree.makeParts here parts
    else
      let making := tree.makeParts here named.dropLast
      ⟨making.tree, making.complete && making.tree.leadsToDirectory here named⟩

end Tree

end Companion
