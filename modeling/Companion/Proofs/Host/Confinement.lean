import Companion.Proofs.Files.Inside
import Companion.Proofs.Generation.Outcome
import Companion.Proofs.Host.Session

/-!
# Companions stay inside their directory

The name of a companion passes the check for plain names, so saving a companion is never refused for
its name, and the only file that it can touch lies directly inside the directory that it is saved in.
A name that does not pass is refused before anything is made or written.
-/

namespace Companion

/-- The name of a companion names a file in whatever directory it is put. -/
theorem Descriptor.isPlainName_companionName {d : Descriptor} (valid : d.validate = .ok ()) :
    Path.isPlainName d.companionName = true := by
  have noDot := dot_not_mem_companionName valid
  have noSlash := slash_not_mem_companionName valid
  have notDots : d.companionName ≠ "." ∧ d.companionName ≠ ".." := by
    constructor <;> intro same <;> simp [same] at noDot
  simp [Path.isPlainName, d.companionName_ne_empty, notDots, noSlash]

/-- The name of the file of a unit is plain if the name of the unit leads nowhere. -/
theorem isPlainName_unitFileName {unit : String} (whole : '/' ∉ unit.toList) :
    Path.isPlainName (unitFileName unit) = true := by
  rw [Path.isPlainName_eq_true_iff, Path.fileName?_eq_some_self_iff]
  have long : 5 ≤ (unitFileName unit).toList.length := by
    simp [unitFileName]
  refine ⟨?_, ?_, ?_, ?_⟩
  · intro same
    simp [same] at long
  · simpa [unitFileName] using whole
  · intro same
    simp [same] at long
  · intro same
    simp [same] at long

/-- If any file differs between two trees, it is the one with the given name directly inside a
directory. -/
def Tree.SameFilesButInside (directory name : String) (before after : Tree) : Prop :=
  SameFiles before after ∨
    ∃ home, after.directoryAt? directory = some home ∧ after.entryAt? home = some .directory ∧
      after.locate? (Path.join directory name) = some (home ++ [name]) ∧
      SameFilesBut (home ++ [name]) before after

/-- Whatever saving comes to, no file outside the directory is touched. -/
theorem Saves.sameFilesButInside {tree after : Tree} {directory unit source : String}
    {result : Except SaveError (Option String)} (saves : Saves tree directory unit source result after)
    (whole : '/' ∉ unit.toList) :
    Tree.SameFilesButInside directory (unitFileName unit) tree after := by
  cases result with
  | error error => exact Or.inl saves.sameFiles_of_error
  | ok path =>
      cases path with
      | none =>
          cases saves
          exact Or.inl (Tree.SameFiles.refl tree)
      | some path =>
          obtain ⟨rfl, location, located, _, others⟩ := saves.of_ok_some
          obtain ⟨home, led, stands, rfl⟩ :=
            Tree.locate?_join (isPlainName_unitFileName whole) located
          exact Or.inr ⟨home, led, stands, located, others⟩

/-- A name that is not plain is refused, and nothing happens to the machine. -/
theorem run_saveUnit_of_not_plain {unit source : String} (filled : source ≠ "")
    (refused : Path.isPlainName unit = false) (directory : String) (s : Session) :
    (saveUnit directory unit source : SessionM (Except SaveError (Option String))) s =
      (.error (.notPlainName unit), s) := by
  rw [saveUnit, if_neg filled, refused]
  rfl

/-- Saving is refused for the name of the unit exactly if that name is not its own last part. -/
theorem notPlainName_iff {unit source : String} (filled : source ≠ "") (directory : String)
    (s : Session) :
    ((saveUnit directory unit source : SessionM (Except SaveError (Option String))) s).1 =
        .error (.notPlainName unit) ↔
      Path.fileName? unit ≠ some unit := by
  rw [ne_eq, ← Path.isPlainName_eq_true_iff, Bool.not_eq_true]
  constructor
  · intro refused
    obtain ⟨result, after, events, run, saves⟩ := run_saveUnit directory unit source s
    rw [run] at refused
    cases refused
    cases saves with
    | notPlainName _ foreign => exact foreign
  · intro foreign
    rw [run_saveUnit_of_not_plain filled foreign]

/-- Saving a companion has four outcomes: its name is never refused. -/
theorem Saves.of_companion {tree after : Tree} {directory source : String} {d : Descriptor}
    {result : Except SaveError (Option String)} (valid : d.validate = .ok ())
    (rendered : source ≠ "") (saves : Saves tree directory d.companionName source result after) :
    (∀ unit, result ≠ .error (.notPlainName unit)) ∧
      ∀ path, result = .ok path →
        path = some (Path.join directory (unitFileName d.companionName)) := by
  constructor
  · rintro unit rfl
    cases saves with
    | notPlainName _ refused =>
        rw [Descriptor.isPlainName_companionName valid] at refused
        cases refused
  · rintro path rfl
    cases saves with
    | nothing empty => exact absurd empty rendered
    | saved => rfl

/-- Every companion that is rendered, by whatever template, is saved in the file of its name directly
inside the directory, or not at all, and its name is no reason for that. More generally, a name is
refused exactly if it is not its own last part as a path, that is, if it is empty, has a slash in it
or is one of the two dotted names; the machine is then left as it was. -/
theorem saveUnit_confined :
    (∀ (template : Template) (d : Descriptor) (source : String),
      (template.generate d).run.value = .ok source → source ≠ "" →
      ∀ (directory : String) (s : Session), ∃ result after events,
        (saveUnit directory d.companionName source :
            SessionM (Except SaveError (Option String))) s =
          (result, { s with tree := after, events := s.events ++ events }) ∧
        (∀ unit, result ≠ .error (.notPlainName unit)) ∧
        (∀ path, result = .ok path →
          path = some (Path.join directory (d.name ++ "Entity.java"))) ∧
        (∀ error, result = .error error → Tree.SameFiles s.tree after) ∧
        Tree.SameFilesButInside directory (d.name ++ "Entity.java") s.tree after) ∧
    ∀ unit source : String, source ≠ "" →
      (Path.fileName? unit = some unit ↔
        unit ≠ "" ∧ '/' ∉ unit.toList ∧ unit ≠ "." ∧ unit ≠ "..") ∧
      ∀ (directory : String) (s : Session),
        (((saveUnit directory unit source : SessionM (Except SaveError (Option String))) s).1 =
            .error (.notPlainName unit) ↔
          Path.fileName? unit ≠ some unit) ∧
        (Path.fileName? unit ≠ some unit →
          (saveUnit directory unit source : SessionM (Except SaveError (Option String))) s =
            (.error (.notPlainName unit), s)) := by
  constructor
  · intro template d source generated rendered directory s
    have valid := Template.validate_of_generate generated rendered
    have fileName : unitFileName d.companionName = d.name ++ "Entity.java" := String.append_assoc
    obtain ⟨result, after, events, run, saves⟩ :=
      run_saveUnit directory d.companionName source s
    have confined := saves.sameFilesButInside (Descriptor.slash_not_mem_companionName valid)
    obtain ⟨named, stored⟩ := saves.of_companion valid rendered
    rw [fileName] at confined stored
    refine ⟨result, after, events, run, named, stored, ?_, confined⟩
    rintro error rfl
    exact saves.sameFiles_of_error
  · intro unit source filled
    refine ⟨Path.fileName?_eq_some_self_iff unit, fun directory s => ?_⟩
    refine ⟨notPlainName_iff filled directory s, fun foreign => ?_⟩
    have refused : Path.isPlainName unit = false := by
      rw [← Bool.not_eq_true, Path.isPlainName_eq_true_iff]
      exact foreign
    exact run_saveUnit_of_not_plain filled refused directory s

def nameless : Descriptor where
  name := ""
  qualifiedName := "org.example.Foo"
  capabilities := [Capability.augmentable]

/-- The companion of a type without a name goes into a directory on a way with a step back; a name with
a step back is refused. -/
theorem saveUnit_confined_for_nameless :
    ∃ source, ((Template.entity {}).generate nameless).run.value = .ok source ∧ source ≠ "" ∧
      (∃ after events,
        (saveUnit "out/../gen" "Entity" source : SessionM (Except SaveError (Option String)))
            { tree := ∅ } = (.ok (some "out/../gen/Entity.java"), { tree := after, events }) ∧
          Tree.SameFilesButInside "out/../gen" "Entity.java" ∅ after) ∧
      (saveUnit "out" "../Escape" source : SessionM (Except SaveError (Option String)))
        { tree := ∅ } = (.error (.notPlainName "../Escape"), { tree := ∅ }) := by
  obtain ⟨source, generated, rendered⟩ :=
    Template.exists_rendered_of_isOk {} (show nameless.hasCompanion = true from rfl) (by rfl)
      (by rfl)
  obtain ⟨result, after, events, run, _, _, _, confined⟩ :=
    saveUnit_confined.1 _ nameless source generated rendered "out/../gen" { tree := ∅ }
  have saved : ((saveUnit "out/../gen" "Entity" source :
      SessionM (Except SaveError (Option String))) { tree := ∅ }).1 =
        .ok (some "out/../gen/Entity.java") := by
    rw [saveUnit, if_neg rendered]
    rfl
  obtain rfl : result = .ok (some "out/../gen/Entity.java") := by
    rw [← saved]
    exact (congrArg Prod.fst run).symm
  obtain ⟨_, refused⟩ := saveUnit_confined.2 "../Escape" source rendered
  have foreign : Path.fileName? "../Escape" ≠ some "../Escape" := by decide +kernel
  exact ⟨source, generated, rendered, ⟨after, events, run, confined⟩,
    (refused "out" { tree := ∅ }).2 foreign⟩

end Companion
