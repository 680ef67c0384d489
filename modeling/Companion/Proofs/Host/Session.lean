import Companion.Host.Load
import Companion.Host.Save
import Companion.Host.Session
import Companion.Proofs.Files.Contents

/-!
# What loading and saving do to a session

Loading reads the tree and adds to the log, and does nothing else. Saving has five outcomes, listed
in `Saves` with what leads to each of them; only the last one touches a file.
-/

namespace Companion

variable {α : Type}

/-- What a computation comes to: its value, what is printed by then and the tree that it leaves. -/
@[ext]
structure Outcome (α : Type) where
  value : α
  printed : String
  tree : Tree

def SessionM.outcome (action : SessionM α) (s : Session) : Outcome α :=
  { value := (action s).1, printed := (action s).2.printed, tree := (action s).2.tree }

def Tree.readText? (tree : Tree) (path : String) : Option String :=
  (tree.read? path).bind String.fromUTF8?

/-- What loading a descriptor gives, as far as the tree decides it. -/
def Descriptor.inTree (tree : Tree) (path : String) : Except LoadError Descriptor :=
  match tree.readText? path with
  | none => .error (.unreadable path)
  | some text => Descriptor.ofFileText path text

def Settings.inTree (tree : Tree) : Option String → Except SettingsError Settings
  | none => .ok {}
  | some path =>
      match (tree.readText? path).map Settings.ofToml with
      | none => .error (.unreadable path)
      | some none => .error (.invalid path)
      | some (some settings) => .ok settings

namespace Host

theorem run_bind {β : Type} (first : SessionM α) (next : α → SessionM β) (s : Session) :
    (first >>= next) s = next (first s).1 (first s).2 :=
  rfl

theorem run_readText (path : String) (s : Session) :
    (readText path : SessionM (Option String)) s = (s.tree.readText? path, s) := by
  have read : (readFile path : SessionM (Option ByteArray)) s = (s.tree.read? path, s) := rfl
  rw [readText, run_bind, read, Tree.readText?]
  cases s.tree.read? path <;> rfl

theorem run_makeDirectories (path : String) (s : Session) :
    (makeDirectories path : SessionM Bool) s =
      ((s.tree.makeDirectories path).complete,
        { s with tree := (s.tree.makeDirectories path).tree }) :=
  rfl

theorem run_writeFile (path : String) (content : ByteArray) (s : Session) :
    (writeFile path content : SessionM Bool) s =
      ((s.tree.write? path content).isSome,
        { s with tree := (s.tree.write? path content).getD s.tree }) := by
  unfold writeFile instHostSessionM
  dsimp only
  cases s.tree.write? path content <;> rfl

theorem run_logAll (events : List Event) (s : Session) :
    (logAll events : SessionM Unit) s = ((), { s with events := s.events ++ events }) := by
  induction events generalizing s with
  | nil => rw [logAll, List.append_nil]; rfl
  | cons event rest ih =>
      rw [logAll, run_bind, ih]
      simp [log, List.append_assoc]

end Host

theorem Descriptor.run_load (path : String) (s : Session) :
    ∃ events, (Descriptor.load path : SessionM (Except LoadError Descriptor)) s =
      (Descriptor.inTree s.tree path, { s with events := s.events ++ events }) := by
  rw [load, Host.run_bind, Host.run_readText, inTree]
  cases s.tree.readText? path with
  | none => exact ⟨[], by rw [List.append_nil]; rfl⟩
  | some text =>
      cases read : ofFileText path text with
      | error error => exact ⟨[], by simp only [read, List.append_nil]; rfl⟩
      | ok d => exact ⟨[.loaded d.qualifiedName d.capabilities.length], by simp only [read]; rfl⟩

theorem Settings.run_load (file : Option String) (s : Session) :
    (Settings.load file : SessionM (Except SettingsError Settings)) s =
      (Settings.inTree s.tree file, s) := by
  cases file with
  | none => rfl
  | some path =>
      rw [load, Host.run_bind, Host.run_readText, inTree]
      cases s.tree.readText? path with
      | none => rfl
      | some text =>
          rw [Option.map_some]
          cases read : ofToml text <;> simp only [read] <;> rfl

theorem Descriptor.value_load (tree : Tree) (path : String) :
    (SessionM.outcome (Descriptor.load path) { tree }).value = Descriptor.inTree tree path := by
  obtain ⟨events, run⟩ := Descriptor.run_load path { tree }
  rw [SessionM.outcome, run]

theorem Settings.value_load (tree : Tree) (file : Option String) :
    (SessionM.outcome (Settings.load file) { tree }).value = Settings.inTree tree file := by
  rw [SessionM.outcome, Settings.run_load]

/-- What saving a source returns and leaves behind, and why. -/
inductive Saves (tree : Tree) (directory unit source : String) :
    Except SaveError (Option String) → Tree → Prop where
  | nothing (empty : source = "") : Saves tree directory unit source (.ok none) tree
  | notPlainName (filled : source ≠ "") (refused : Path.isPlainName unit = false) :
      Saves tree directory unit source (.error (.notPlainName unit)) tree
  | directory (filled : source ≠ "") (plain : Path.isPlainName unit = true)
      (missing : (tree.makeDirectories directory).complete = false) :
      Saves tree directory unit source (.error (.directory directory))
        (tree.makeDirectories directory).tree
  | file (filled : source ≠ "") (plain : Path.isPlainName unit = true)
      (made : (tree.makeDirectories directory).complete = true)
      (refused : (tree.makeDirectories directory).tree.write?
        (Path.join directory (unitFileName unit)) source.toUTF8 = none) :
      Saves tree directory unit source
        (.error (.file (Path.join directory (unitFileName unit))))
        (tree.makeDirectories directory).tree
  | saved {after : Tree} (filled : source ≠ "") (plain : Path.isPlainName unit = true)
      (made : (tree.makeDirectories directory).complete = true)
      (written : (tree.makeDirectories directory).tree.write?
        (Path.join directory (unitFileName unit)) source.toUTF8 = some after) :
      Saves tree directory unit source
        (.ok (some (Path.join directory (unitFileName unit)))) after

namespace Saves

variable {tree after : Tree} {directory unit source : String}

/-- Where saving fails, nothing happens except that missing directories are made. -/
theorem keptOrMade_of_error {error : SaveError}
    (saves : Saves tree directory unit source (.error error) after) (location : Location) :
    Tree.KeptOrMade (tree.wayTo directory) tree after location := by
  cases saves with
  | notPlainName => exact .refl _ _ _
  | directory => exact Tree.keptOrMade_makeDirectories tree directory location
  | file => exact Tree.keptOrMade_makeDirectories tree directory location

theorem sameFiles_of_error {error : SaveError}
    (saves : Saves tree directory unit source (.error error) after) :
    Tree.SameFiles tree after :=
  fun location => (saves.keptOrMade_of_error location).fileAt?

/-- Where saving succeeds, the source is in the file, and no other file is touched. -/
theorem of_ok_some {path : String} (saves : Saves tree directory unit source (.ok (some path)) after) :
    path = Path.join directory (unitFileName unit) ∧
      ∃ location, after.locate? path = some location ∧
        after.read? path = some source.toUTF8 ∧ Tree.SameFilesBut location tree after := by
  cases saves with
  | saved _ _ _ written =>
      obtain ⟨location, located, read, others⟩ := Tree.written_of_write? written
      exact ⟨rfl, location, located, read,
        (Tree.sameFiles_makeDirectories tree directory).trans_but others⟩

end Saves

/-- Saving has one of the five outcomes, and prints nothing. -/
theorem run_saveUnit (directory unit source : String) (s : Session) :
    ∃ result after events,
      (saveUnit directory unit source : SessionM (Except SaveError (Option String))) s =
        (result, { s with tree := after, events := s.events ++ events }) ∧
      Saves s.tree directory unit source result after := by
  unfold saveUnit
  split
  · next empty => exact ⟨_, _, [], by rw [List.append_nil]; rfl, .nothing empty⟩
  · next filled =>
      split
      · next refused =>
          exact ⟨_, _, [], by rw [List.append_nil]; rfl,
            .notPlainName filled (by simpa using refused)⟩
      · next plain =>
          have plain : Path.isPlainName unit = true := by simpa using plain
          cases made : (s.tree.makeDirectories directory).complete with
          | false =>
              refine ⟨_, _, [], ?_, .directory filled plain made⟩
              rw [Host.run_bind, Host.run_makeDirectories, made, List.append_nil]
              rfl
          | true =>
              rw [Host.run_bind, Host.run_makeDirectories, made]
              simp only [Bool.not_true, Bool.false_eq_true, if_false]
              rw [Host.run_bind, Host.run_writeFile]
              cases written : (s.tree.makeDirectories directory).tree.write?
                  (Path.join directory (unitFileName unit)) source.toUTF8 with
              | none =>
                  exact ⟨_, _, [], by rw [List.append_nil]; rfl, .file filled plain made written⟩
              | some after =>
                  exact ⟨_, _, [.generated _], rfl, .saved filled plain made written⟩

end Companion
