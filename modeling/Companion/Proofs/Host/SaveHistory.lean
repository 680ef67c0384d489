import Companion.Proofs.Host.Session

/-!
# What a sequence of saves leaves behind

Sources are saved one after another, and it does not matter which of the calls succeed. A call that
fails makes at most some directories on the way to its own. A call that succeeds writes one file, and
its path leads to that file from then on. In the end every file holds the source that was saved in it
last, or what it held at the beginning.
-/

namespace Companion

namespace Tree

variable {first second third : Tree}

theorem KeepsDirectories.refl (tree : Tree) : KeepsDirectories tree tree :=
  ⟨rfl, fun _ stands => stands⟩

theorem KeepsDirectories.trans (early : KeepsDirectories first second)
    (late : KeepsDirectories second third) : KeepsDirectories first third where
  workingDirectory := late.workingDirectory.trans early.workingDirectory
  directory location stands := late.directory location (early.directory location stands)

end Tree

namespace Saves

variable {tree after : Tree} {directory unit source : String}
  {result : Except SaveError (Option String)}

/-- Only an empty source is passed over, and then nothing happens. -/
theorem ok_none_iff (saves : Saves tree directory unit source result after) :
    result = .ok none ↔ source = "" := by
  cases saves with
  | nothing empty => exact iff_of_true rfl empty
  | notPlainName filled => exact iff_of_false nofun filled
  | directory filled => exact iff_of_false nofun filled
  | file filled => exact iff_of_false nofun filled
  | saved filled => exact iff_of_false nofun filled

theorem unchanged_of_ok_none (saves : Saves tree directory unit source (.ok none) after) :
    after = tree := by
  cases saves
  rfl

theorem unchanged_of_notPlainName {name : String}
    (saves : Saves tree directory unit source (.error (.notPlainName name)) after) :
    after = tree := by
  cases saves
  rfl

/-- Where saving succeeds, the source is in the file of the path, and nothing else happens except
that missing directories are made. -/
theorem entries_of_ok_some {path : String}
    (saves : Saves tree directory unit source (.ok (some path)) after) :
    ∃ location, after.locate? path = some location ∧
      after.entryAt? location = some (.file source.toUTF8) ∧
      ∀ other, other ≠ location → Tree.KeptOrMade (tree.wayTo directory) tree after other := by
  cases saves with
  | saved _ _ _ written =>
      obtain ⟨location, found, _, vacant, rfl⟩ := Tree.write?_eq_some_iff.mp written
      have below := Tree.ne_root_of_entryAt? vacant
      refine ⟨location, (Tree.keepsDirectories_put _ vacant).locate? found,
        Tree.entryAt?_put_self _ below, fun other apart => ?_⟩
      exact (Tree.keptOrMade_makeDirectories tree directory other).trans
        (Or.inl (Tree.entryAt?_put_of_ne _ below apart.symm))

theorem keepsDirectories (saves : Saves tree directory unit source result after) :
    Tree.KeepsDirectories tree after := by
  cases saves with
  | nothing => exact .refl tree
  | notPlainName => exact .refl tree
  | directory => exact Tree.keepsDirectories_makeDirectories tree directory
  | file => exact Tree.keepsDirectories_makeDirectories tree directory
  | saved _ _ _ written =>
      obtain ⟨_, _, _, vacant, rfl⟩ := Tree.write?_eq_some_iff.mp written
      exact (Tree.keepsDirectories_makeDirectories tree directory).trans
        (Tree.keepsDirectories_put _ vacant)

end Saves

structure SaveRequest where
  directory : String
  unit : String
  source : String
deriving DecidableEq, Repr

def SaveRequest.save (request : SaveRequest) : SessionM (Except SaveError (Option String)) :=
  saveUnit request.directory request.unit request.source

/-- Saves one source after another, whatever becomes of each of them. -/
def saveEach : List SaveRequest → SessionM (List (Except SaveError (Option String)))
  | [] => pure []
  | request :: rest => do
      let result ← request.save
      let results ← saveEach rest
      pure (result :: results)

/-- A call that was made: the tree before it, what it returned and the tree after it. -/
structure SaveCall where
  request : SaveRequest
  before : Tree
  result : Except SaveError (Option String)
  after : Tree

def SaveRequest.call (request : SaveRequest) (s : Session) : SaveCall where
  request := request
  before := s.tree
  result := (request.save s).1
  after := (request.save s).2.tree

def callsFrom (s : Session) : List SaveRequest → List SaveCall
  | [] => []
  | request :: rest => request.call s :: callsFrom (request.save s).2 rest

namespace SaveCall

/-- The location of the file that a call wrote, if it did. -/
def target? (call : SaveCall) : Option Location :=
  match call.result with
  | .ok (some path) => call.after.locate? path
  | _ => none

def IsSave (call : SaveCall) : Prop :=
  Saves call.before call.request.directory call.request.unit call.request.source call.result
    call.after

variable {call : SaveCall}

/-- A call leaves its source in the file that it wrote, and every other file as it was. -/
theorem IsSave.fileAt?_after (saved : call.IsSave) (location : Location) :
    call.after.fileAt? location =
      if call.target? = some location then some call.request.source.toUTF8
      else call.before.fileAt? location := by
  obtain ⟨request, before, result, after⟩ := call
  cases result with
  | error error => exact (Saves.keptOrMade_of_error saved location).fileAt?
  | ok path =>
      cases path with
      | none => rw [Saves.unchanged_of_ok_none saved]; rfl
      | some path =>
          obtain ⟨target, located, filled, others⟩ := Saves.entries_of_ok_some saved
          have aimed : target? ⟨request, before, .ok (some path), after⟩ = some target := located
          rw [aimed]
          by_cases same : target = location
          · rw [if_pos (congrArg some same), ← same]
            simp only [Tree.fileAt?, filled]
          · rw [if_neg fun equal => same (Option.some.inj equal)]
            exact (others location (Ne.symm same)).fileAt?

end SaveCall

/-- The last call that wrote the file at a location. -/
def lastWriter? (calls : List SaveCall) (location : Location) : Option SaveCall :=
  calls.reverse.find? fun call => call.target? = some location

theorem lastWriter?_cons (call : SaveCall) (rest : List SaveCall) (location : Location) :
    lastWriter? (call :: rest) location =
      (lastWriter? rest location).or
        (if call.target? = some location then some call else none) := by
  by_cases wrote : call.target? = some location
  · simp [lastWriter?, List.find?_append, wrote]
  · simp [lastWriter?, List.find?_append, wrote]

/-- Every request is answered by a call that goes as saving goes. -/
theorem SaveRequest.isSave_call (request : SaveRequest) (s : Session) :
    (request.call s).IsSave := by
  obtain ⟨result, after, events, run, saves⟩ :=
    run_saveUnit request.directory request.unit request.source s
  have value : (request.save s).1 = result := congrArg Prod.fst run
  have tree : (request.save s).2.tree = after := congrArg (fun done => done.2.tree) run
  rw [SaveCall.IsSave, call, value, tree]
  exact saves

theorem isSave_of_mem_callsFrom {requests : List SaveRequest} {s : Session} {call : SaveCall}
    (inside : call ∈ callsFrom s requests) : call.IsSave := by
  induction requests generalizing s with
  | nil => cases inside
  | cons request rest ih =>
      rcases List.mem_cons.mp inside with rfl | later
      · exact request.isSave_call s
      · exact ih later

/-- A run saves the first source and then the others in the session that this leaves. -/
theorem run_saveEach_cons (request : SaveRequest) (rest : List SaveRequest) (s : Session) :
    saveEach (request :: rest) s =
      ((request.save s).1 :: (saveEach rest (request.save s).2).1,
        (saveEach rest (request.save s).2).2) :=
  rfl

theorem results_saveEach (requests : List SaveRequest) (s : Session) :
    (saveEach requests s).1 = (callsFrom s requests).map SaveCall.result := by
  induction requests generalizing s with
  | nil => rfl
  | cons request rest ih =>
      rw [run_saveEach_cons, ih]
      rfl

theorem keepsDirectories_saveEach (requests : List SaveRequest) (s : Session) :
    Tree.KeepsDirectories s.tree (saveEach requests s).2.tree := by
  induction requests generalizing s with
  | nil => exact .refl s.tree
  | cons request rest ih =>
      rw [run_saveEach_cons]
      exact (request.isSave_call s).keepsDirectories.trans (ih (request.save s).2)

/-- Where a path leads after one of the calls, it leads after the whole run. -/
theorem keepsDirectories_after {requests : List SaveRequest} {s : Session} {call : SaveCall}
    (inside : call ∈ callsFrom s requests) :
    Tree.KeepsDirectories call.after (saveEach requests s).2.tree := by
  induction requests generalizing s with
  | nil => cases inside
  | cons request rest ih =>
      rw [run_saveEach_cons]
      rcases List.mem_cons.mp inside with rfl | later
      · exact keepsDirectories_saveEach rest (request.save s).2
      · exact ih later

/-- After a run every file holds what its last writer saved, or what it held before. -/
theorem fileAt?_saveEach (requests : List SaveRequest) (s : Session) (location : Location) :
    (saveEach requests s).2.tree.fileAt? location =
      match lastWriter? (callsFrom s requests) location with
      | some call => some call.request.source.toUTF8
      | none => s.tree.fileAt? location := by
  induction requests generalizing s with
  | nil => rfl
  | cons request rest ih =>
      have step : (request.save s).2.tree.fileAt? location = _ :=
        (request.isSave_call s).fileAt?_after location
      rw [run_saveEach_cons, ih, callsFrom, lastWriter?_cons, step]
      cases lastWriter? (callsFrom (request.save s).2 rest) location with
      | some call => rfl
      | none =>
          by_cases wrote : (request.call s).target? = some location
          · rw [if_pos wrote, if_pos wrote]
            rfl
          · rw [if_neg wrote, if_neg wrote]
            rfl

/-- What any sequence of saves does, call by call and in the end. -/
theorem history_of_saveEach (requests : List SaveRequest) (s : Session) :
    (saveEach requests s).1 = (callsFrom s requests).map SaveCall.result ∧
    (∀ call ∈ callsFrom s requests,
      (call.result = .ok none ↔ call.request.source = "") ∧
      (call.result = .ok none → call.after = call.before) ∧
      (∀ unit, call.result = .error (.notPlainName unit) → call.after = call.before) ∧
      (∀ error, call.result = .error error → ∀ location,
        Tree.KeptOrMade (call.before.wayTo call.request.directory) call.before call.after
          location) ∧
      ∀ path, call.result = .ok (some path) →
        path = Path.join call.request.directory (call.request.unit ++ ".java") ∧
        ∃ location, call.target? = some location ∧
          call.after.entryAt? location = some (.file call.request.source.toUTF8) ∧
          (∀ other, other ≠ location →
            Tree.KeptOrMade (call.before.wayTo call.request.directory) call.before call.after
              other) ∧
          (saveEach requests s).2.tree.locate? path = some location) ∧
    ∀ location, (saveEach requests s).2.tree.fileAt? location =
      match lastWriter? (callsFrom s requests) location with
      | some call => some call.request.source.toUTF8
      | none => s.tree.fileAt? location := by
  refine ⟨results_saveEach requests s, ?_, fileAt?_saveEach requests s⟩
  intro call inside
  have saves := isSave_of_mem_callsFrom inside
  have keeps := keepsDirectories_after inside
  obtain ⟨request, before, result, after⟩ := call
  refine ⟨Saves.ok_none_iff saves, ?_, ?_, ?_, ?_⟩
  · rintro rfl
    exact Saves.unchanged_of_ok_none saves
  · rintro unit rfl
    exact Saves.unchanged_of_notPlainName saves
  · rintro error rfl
    exact Saves.keptOrMade_of_error saves
  · rintro path rfl
    obtain ⟨location, located, filled, others⟩ := Saves.entries_of_ok_some saves
    exact ⟨(Saves.of_ok_some saves).1, location, located, filled, others, keeps.locate? located⟩

/-- Five requests. The first and the fourth write the same file, and the others write none. -/
def rivalRequests : List SaveRequest := [
  { directory := "out", unit := "A", source := "one" },
  { directory := "made/../out/A.java", unit := "B", source := "two" },
  { directory := "out", unit := "../A", source := "three" },
  { directory := "out", unit := "A", source := "four" },
  { directory := "out", unit := "..", source := "" }]

theorem history_of_rivalRequests :
    (saveEach rivalRequests { tree := ∅ }).1 =
        [.ok (some "out/A.java"), .error (.directory "made/../out/A.java"),
          .error (.notPlainName "../A"), .ok (some "out/A.java"), .ok none] ∧
      (∃ call ∈ callsFrom { tree := ∅ } rivalRequests,
        call.result = .error (.directory "made/../out/A.java") ∧
        call.before.entryAt? ["made"] = none ∧ call.after.entryAt? ["made"] = some .directory ∧
        call.after.fileAt? ["out", "A.java"] = some "one".toUTF8) ∧
      (saveEach rivalRequests { tree := ∅ }).2.tree.fileAt? ["out", "A.java"] =
        some "four".toUTF8 := by
  obtain ⟨results, each, files⟩ := history_of_saveEach rivalRequests { tree := ∅ }
  have last : (lastWriter? (callsFrom { tree := ∅ } rivalRequests) ["out", "A.java"]).map
      (fun call => call.request.source) = some "four" := by rfl
  obtain ⟨call, found, source⟩ := Option.map_eq_some_iff.mp last
  refine ⟨results.trans (by rfl), ?_, ?_⟩
  · -- The second call makes a directory before it comes to a file where it needs one.
    have second : (callsFrom { tree := ∅ } rivalRequests)[1] ∈
        callsFrom { tree := ∅ } rivalRequests :=
      List.getElem_mem _
    obtain ⟨_, _, _, failed, _⟩ := each _ second
    refine ⟨_, second, by rfl, by rfl, by rfl, ?_⟩
    rw [(failed _ (by rfl) ["out", "A.java"]).fileAt?]
    rfl
  · rw [files, found]
    exact congrArg (fun text : String => some text.toUTF8) source

end Companion
