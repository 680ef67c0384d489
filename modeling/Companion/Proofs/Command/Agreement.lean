import Companion.Proofs.Command.Outcome
import Companion.Proofs.Host.Confinement

/-!
# The commands agree

Checking, naming and generating decide on their own whether a type gets a companion and what it is
called. They agree: a type is turned down by all of them or by none, and what is printed without an
output directory is what lands in the file of the printed name with one.
-/

namespace Companion

namespace Command

/-- The command succeeds, prints nothing and leaves the files of the tree as they are. -/
def Idles (command : Command) (tree : Tree) : Prop :=
  exitCode (command.outcome tree).value = 0 ∧ (command.outcome tree).printed = "" ∧
    Tree.SameFiles tree (command.outcome tree).tree

/-- What generating into a directory comes to: the directory cannot be made, or the file in it cannot
be written, or the file holds the source. -/
inductive Delivers (tree : Tree) (directory unit source : String) :
    Outcome (Except CommandError Unit) → Prop where
  | directory {after : Tree} (missing : (tree.makeDirectories directory).complete = false)
      (same : Tree.SameFiles tree after) :
      Delivers tree directory unit source ⟨.error (.save (.directory directory)), "", after⟩
  | file {after : Tree} (made : (tree.makeDirectories directory).complete = true)
      (refused : (tree.makeDirectories directory).tree.write?
        (Path.join directory (unitFileName unit)) source.toUTF8 = none)
      (same : Tree.SameFiles tree after) :
      Delivers tree directory unit source
        ⟨.error (.save (.file (Path.join directory (unitFileName unit)))), "", after⟩
  | delivered {after : Tree} {location : Location}
      (made : (tree.makeDirectories directory).complete = true)
      (located : after.locate? (Path.join directory (unitFileName unit)) = some location)
      (read : after.read? (Path.join directory (unitFileName unit)) = some source.toUTF8)
      (others : Tree.SameFilesBut location tree after) :
      Delivers tree directory unit source ⟨.ok (), "", after⟩

section

variable {tree : Tree} {input : String} {file : Option String} {d : Descriptor}
  {settings : Settings}

theorem printed_check (loaded : Descriptor.inTree tree input = .ok d) :
    ((check input).outcome tree).printed = if d.hasCompanion then "true\n" else "false\n" := by
  rw [outcome_check loaded]
  cases d.hasCompanion <;> rfl

theorem printed_check_eq_false_iff (loaded : Descriptor.inTree tree input = .ok d) :
    ((check input).outcome tree).printed = "false\n" ↔ d.hasCompanion = false := by
  rw [printed_check loaded]
  cases d.hasCompanion <;> simp

theorem printed_check_eq_true_iff (loaded : Descriptor.inTree tree input = .ok d) :
    ((check input).outcome tree).printed = "true\n" ↔ d.hasCompanion = true := by
  rw [printed_check loaded]
  cases d.hasCompanion <;> simp

variable (loaded : Descriptor.inTree tree input = .ok d)
  (configured : Settings.inTree tree file = .ok settings)

include loaded configured

theorem outcome_generate_of_refused (refused : d.hasCompanion = false) (output : Option String) :
    (generate input output file).outcome tree = ⟨.ok (), "", tree⟩ := by
  have ineligible : ¬ d.IsCandidate := by
    rw [← d.hasCompanion_eq_true_iff, refused]
    exact Bool.false_ne_true
  exact outcome_generate_of_empty loaded configured
    (Template.value_eq_ok_empty_iff.mpr ineligible) output

/-- Where generating saves a source, it delivers it. The name of the companion is no obstacle. -/
theorem delivers_of_rendered {source : String}
    (generated : ((Template.entity settings).generate d).run.value = .ok source)
    (rendered : source ≠ "") (directory : String) :
    Delivers tree directory d.companionName source
      ((generate input (some directory) file).outcome tree) := by
  have valid := (Template.rendered_iff.mp ⟨generated, rendered⟩).2.1
  have named := Descriptor.isPlainName_companionName valid
  rcases outcome_generate_some loaded configured generated rendered directory with
    ⟨error, after, saves, comes⟩ | ⟨path, after, saves, comes⟩
  · rw [comes]
    have same := saves.sameFiles_of_error
    cases saves with
    | notPlainName _ refused =>
        rw [named] at refused
        cases refused
    | directory _ _ missing => exact .directory missing same
    | file _ _ made refused => exact .file made refused same
  · rw [comes]
    cases saves with
    | nothing empty => exact absurd empty rendered
    | saved filled plain made written =>
        obtain ⟨location, located, read, others⟩ :=
          (Saves.saved filled plain made written).of_ok_some.2
        exact .delivered made located read others

/-- For a type that gets a companion, generating fails for one reason wherever the output goes, or it
prints a source that it can also deliver. -/
theorem generate_of_accepted (accepted : d.hasCompanion = true) :
    (∃ reason, ∀ output, (generate input output file).outcome tree =
      ⟨.error (.generate d.qualifiedName reason), "", tree⟩) ∨
    ∃ source, source ≠ "" ∧ (generate input none file).outcome tree = ⟨.ok (), source, tree⟩ ∧
      '\n' ∉ d.companionName.toList ∧
      ∀ directory, Delivers tree directory d.companionName source
        ((generate input (some directory) file).outcome tree) := by
  cases generated : ((Template.entity settings).generate d).run.value with
  | error reason =>
      exact Or.inl ⟨reason, outcome_generate_of_error loaded configured generated⟩
  | ok source =>
      have rendered : source ≠ "" := by
        rintro rfl
        exact Template.value_eq_ok_empty_iff.mp generated (d.hasCompanion_eq_true_iff.mp accepted)
      have valid := (Template.rendered_iff.mp ⟨generated, rendered⟩).2.1
      exact Or.inr ⟨source, rendered,
        outcome_generate_none loaded configured generated rendered,
        Descriptor.newline_not_mem_companionName valid,
        delivers_of_rendered loaded configured generated rendered⟩

/-- To generate idly without an output directory is to turn the type down. -/
theorem hasCompanion_eq_false_of_idles (idle : (generate input none file).Idles tree) :
    d.hasCompanion = false := by
  cases accepted : d.hasCompanion with
  | false => rfl
  | true =>
      obtain ⟨success, silent, _⟩ := idle
      rcases generate_of_accepted loaded configured accepted with
        ⟨reason, failed⟩ | ⟨source, rendered, shown, _⟩
      · rw [failed none] at success
        cases success
      · rw [shown] at silent
        exact absurd silent rendered

end

/-- The three commands agree about every descriptor and every settings that can be loaded. Checking
turns a type down exactly if generating comes to nothing. Otherwise generating fails everywhere for
one reason, or it prints a source, and with an output directory that source lands in the file of the
name that is printed, unless the directory or the file cannot be had. -/
theorem commands_agree {tree : Tree} {input : String} {file : Option String} {d : Descriptor}
    {settings : Settings}
    (loaded : (SessionM.outcome (Descriptor.load input) { tree }).value = .ok d)
    (configured : (SessionM.outcome (Settings.load file) { tree }).value = .ok settings) :
    ((check input).outcome tree = ⟨.ok (), "true\n", tree⟩ ∨
      (check input).outcome tree = ⟨.ok (), "false\n", tree⟩) ∧
    (((check input).outcome tree).printed = "false\n" ↔
      ∀ output, (generate input output file).Idles tree) ∧
    (((check input).outcome tree).printed = "false\n" →
      ∀ output, (generate input output file).outcome tree = ⟨.ok (), "", tree⟩) ∧
    (((check input).outcome tree).printed = "true\n" →
      (∃ reason, ∀ output, (generate input output file).outcome tree =
        ⟨.error (.generate d.qualifiedName reason), "", tree⟩) ∨
      ∃ source unit, source ≠ "" ∧
        (generate input none file).outcome tree = ⟨.ok (), source, tree⟩ ∧
        (unitName input).outcome tree = ⟨.ok (), unit ++ "\n", tree⟩ ∧ '\n' ∉ unit.toList ∧
        ∀ directory, Delivers tree directory unit source
          ((generate input (some directory) file).outcome tree)) := by
  rw [Descriptor.value_load] at loaded
  rw [Settings.value_load] at configured
  rw [printed_check_eq_false_iff loaded, printed_check_eq_true_iff loaded]
  have idle := outcome_generate_of_refused loaded configured
  refine ⟨?_, ⟨?_, ?_⟩, idle, ?_⟩
  · rw [outcome_check loaded]
    cases d.hasCompanion with
    | false => exact Or.inr rfl
    | true => exact Or.inl rfl
  · intro refused output
    rw [Idles, idle refused output]
    exact ⟨rfl, rfl, Tree.SameFiles.refl tree⟩
  · intro idles
    -- Writing can leave a file as it was, so only the case without a directory tells them apart.
    exact hasCompanion_eq_false_of_idles loaded configured (idles none)
  · intro accepted
    rcases generate_of_accepted loaded configured accepted with
      failed | ⟨source, rendered, shown, oneLine, delivers⟩
    · exact Or.inl failed
    · exact Or.inr ⟨source, d.companionName, rendered, shown, outcome_unitName loaded, oneLine,
        delivers⟩

def oneFile : Tree :=
  (∅ : Tree).put ["foo.json"] (.file
    ("\x7b\"name\":\"Foo\",\"fully_qualified_name\":\"org.example.Foo\"," ++
      "\"implemented_capabilities\":[\"org.opendaylight.yangtools.yang.binding.Augmentable\"]\x7d"
      ).toUTF8)

def oneFileDescriptor : Descriptor where
  name := "Foo"
  qualifiedName := "org.example.Foo"
  capabilities := [Capability.augmentable]

theorem loaded_oneFile : Descriptor.inTree oneFile "foo.json" = .ok oneFileDescriptor := by
  decide +kernel

theorem exists_written_oneFile (content : ByteArray) :
    ∃ after, (oneFile.makeDirectories "out").tree.write? "out/FooEntity.java" content =
      some after :=
  ⟨_, Tree.write?_eq_some_iff.mpr ⟨["out", "FooEntity.java"], by rfl, by rfl, nofun, rfl⟩⟩

theorem commands_agree_on_oneFile :
    ∃ source after, source ≠ "" ∧
      (generate "foo.json" none none).outcome oneFile = ⟨.ok (), source, oneFile⟩ ∧
      (generate "foo.json" (some "out") none).outcome oneFile = ⟨.ok (), "", after⟩ ∧
      after.read? "out/FooEntity.java" = some source.toUTF8 := by
  have loaded : (SessionM.outcome (Descriptor.load "foo.json") { tree := oneFile }).value =
      .ok oneFileDescriptor := by
    rw [Descriptor.value_load, loaded_oneFile]
  have configured : (SessionM.outcome (Settings.load none) { tree := oneFile }).value =
      .ok {} := rfl
  have accepted : ((check "foo.json").outcome oneFile).printed = "true\n" :=
    (printed_check_eq_true_iff loaded_oneFile).mpr rfl
  rcases (commands_agree loaded configured).2.2.2 accepted with
    ⟨reason, failed⟩ | ⟨source, unit, rendered, shown, named, _, delivers⟩
  · obtain ⟨source, generated, rendered⟩ :=
      Template.exists_rendered_of_isOk {} (show oneFileDescriptor.hasCompanion = true from rfl)
        (by rfl) (by rfl)
    have shown := outcome_generate_none loaded_oneFile
      (show Settings.inTree oneFile none = .ok {} from rfl) generated rendered
    rw [failed none] at shown
    cases shown
  · have unit_eq : unit = "FooEntity" := by
      rw [outcome_unitName loaded_oneFile] at named
      exact (String.append_left_inj "\n").mp (Outcome.ext_iff.mp named).2.1.symm
    subst unit_eq
    have delivered := delivers "out"
    generalize (generate "foo.json" (some "out") none).outcome oneFile = comes at delivered ⊢
    cases delivered with
    | directory missing =>
        have made : (oneFile.makeDirectories "out").complete = true := by rfl
        rw [missing] at made
        cases made
    | file _ refused =>
        obtain ⟨after, written⟩ := exists_written_oneFile source.toUTF8
        exact absurd (refused.symm.trans written) nofun
    | delivered _ _ read => exact ⟨source, _, rendered, shown, rfl, read⟩

end Command

end Companion
