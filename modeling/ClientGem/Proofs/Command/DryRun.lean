import ClientGem.Command.Run
import ClientGem.Proofs.Api.Load
import ClientGem.Proofs.Command.Arguments
import ClientGem.Proofs.Gem.Build
import ClientGem.Proofs.Output.Printout
import ClientGem.Proofs.Text.Ascii

/-!
A build beside its dry run, the same command line on the same tree. What goes wrong before the
first file is written leaves the tree as it was, and a dry run never changes it; where the build
succeeds, the dry run has printed just the files that are then written.
-/

namespace ClientGem.Command

open Api FileTree Output

/-- Files as a dry run shows them, each behind a line with its path. -/
def shown (files : List File) : String :=
  String.join (files.map fun file => "=== " ++ file.path.text ++ " ===\n" ++ file.content ++ "\n")

theorem bytesOf_eq (text : String) : bytesOf text = Text.bytes text := by
  rw [bytesOf, ← Text.bytes_ofList, String.ofList_toList]

theorem summary_eq {what opening : String} (opens : what ++ " (" = opening) (count : Nat) :
    summary what count = Text.bytes (opening ++ toString count ++ " files)\n") := by
  rw [← opens]
  exact bytesOf_eq _

theorem printoutOf_eq (files : List File) : printoutOf files = Text.bytes (shown files) := by
  rw [← bytesOf_eq, shown, bytesOf, String.toList_join, List.flatMap_map, List.flatMap_assoc]
  rfl

theorem printout_summary_eq (files : List File) :
    printoutOf files ++ summary "Dry run complete" files.length =
      Text.bytes (shown files ++ "Dry run complete (" ++ toString files.length ++ " files)\n") := by
  have opens : "Dry run complete" ++ " (" = "Dry run complete (" := String.toList_inj.mp rfl
  rw [printoutOf_eq, summary_eq opens, ← bytesOf_eq, ← bytesOf_eq, ← bytesOf_append, bytesOf_eq]
  simp only [String.append_assoc]

section Outcome

variable {warnings : List String} {result : Except RunError Bytes}

theorem code_outcomeOf_eq_zero :
    (outcomeOf warnings result).code = 0 ↔ ∃ printed, result = .ok printed := by
  cases result <;> simp [outcomeOf]

theorem code_outcomeOf_or :
    (outcomeOf warnings result).code = 0 ∨ (outcomeOf warnings result).code = 1 := by
  cases result <;> simp [outcomeOf]

end Outcome

variable {working : Location} {workingName : Option String} {args : List String}
  {order : BuildOrder} {tree : FileTree}

def afterLoading (working : Location) (order : BuildOrder) (tree : FileTree) :
    Except LoadError Config → Except RunError Bytes × FileTree
  | .ok api => makeGem (disk working) ⟨api⟩ order tree
  | .error error => (.error (.unloaded error), tree)

/-- The description is loaded first, and that leaves the tree as it was. -/
theorem run_eq (accepted : Request.ofArguments? args = some (.build order))
    {loaded : Except LoadError Config}
    (loads : (Config.load (disk working) workingName order.configFile tree).1 = loaded) :
    ∃ warnings, run (disk working) workingName args tree =
      (outcomeOf warnings (afterLoading working order tree loaded).1,
        (afterLoading working order tree loaded).2) := by
  rw [load_eq] at loads
  dsimp only at loads
  have executed : execute (disk working) workingName order
      (loadDocument (disk working) order.configFile tree).1 tree =
        afterLoading working order tree loaded := by
    rw [execute, loads]
    cases loaded <;> rfl
  simp only [run, accepted, bind, StateT.bind, ExceptT.run]
  rw [loadDocument_eq]
  dsimp only
  rw [executed]
  exact ⟨_, rfl⟩

theorem writeGem_of_refused (gem : Gem) {root : FilePath}
    (refused : (canHoldFiles (disk working) root tree).1 = false) :
    writeGem (disk working) gem root tree = (.error (.notDirectory root), tree) := by
  have looked : (liftM (canHoldFiles (disk working) root) : ExceptT RunError (StateM FileTree) Bool)
      tree = (.ok false, tree) := by
    rw [lift_apply, refused]
    rfl
  rw [writeGem, bind_of_ok looked]
  rfl

theorem writeGem_of_accepted (gem : Gem) {root : FilePath}
    (accepted : (canHoldFiles (disk working) root tree).1 = true) :
    writeGem (disk working) gem root tree =
      (((gem.build (directorySink (disk working) root) tree).1.mapError .unbuilt).map fun paths =>
          summary "Wrapper generated successfully" paths.length,
        (gem.build (directorySink (disk working) root) tree).2) := by
  -- To look at the directory changes nothing, so that the build starts on the same tree.
  have looked : (liftM (canHoldFiles (disk working) root) : ExceptT RunError (StateM FileTree) Bool)
      tree = (.ok true, tree) := by
    rw [lift_apply, accepted]
    rfl
  rw [writeGem, bind_of_ok looked, if_pos rfl]
  dsimp only
  rw [bind_pure_apply, adapt_apply]

theorem printGem_eq (gem : Gem) : printGem gem =
    (gem.render.mapError fun missing => .unbuilt (.missing missing)).map fun files =>
      printoutOf files ++ summary "Dry run complete" files.length := by
  cases rendered : gem.render with
  | error missing =>
    rw [printGem, Gem.build_of_error rendered]
    rfl
  | ok files =>
    have takes : Takes Printout.sink {} files := Printout.takes_sink rfl files
    rw [printGem, Gem.build_of_ok rendered, writeFiles_of_takes takes, Printout.stateAfter_sink rfl]
    simp [Except.mapError, Except.map, Printout.add]

theorem exists_printGem_eq_ok (gem : Gem) :
    (∃ printed, printGem gem = .ok printed) ↔ gem.missingName? = none := by
  rw [printGem_eq]
  cases named : gem.missingName? with
  | some missing =>
    rw [Gem.render_of_missing named]
    simp [Except.mapError, Except.map]
  | none =>
    rw [Gem.render_of_complete named]
    simp [Except.mapError, Except.map]

theorem makeGem_of_dryRun (gem : Gem) (dryRun : order.dryRun = true) :
    makeGem (disk working) gem order tree = (printGem gem, tree) := by
  rw [makeGem, if_pos dryRun, ofExcept_apply]

theorem makeGem_of_build (gem : Gem) (dryRun : order.dryRun = false) :
    makeGem (disk working) gem order tree = writeGem (disk working) gem order.outputDir tree := by
  rw [makeGem, if_neg (by rw [dryRun]; exact nofun)]

theorem exists_map_mapError_eq_ok {ε δ α β : Type} {result : Except ε α} {rename : ε → δ}
    {change : α → β} : (∃ value, (result.mapError rename).map change = .ok value) ↔
      ∃ value, result = .ok value := by
  cases result <;> simp [Except.mapError, Except.map]

section AfterLoading

variable {loaded : Except LoadError Config}

theorem afterLoading_of_dryRun (dryRun : order.dryRun = true) :
    afterLoading working order tree loaded =
      ((loaded.mapError .unloaded).bind fun api => printGem ⟨api⟩, tree) := by
  cases loaded with
  | error error => rfl
  | ok api =>
    rw [afterLoading, makeGem_of_dryRun ⟨api⟩ dryRun]
    simp only [Except.mapError, Except.bind]

theorem exists_afterLoading_eq_ok (dryRun : order.dryRun = false) :
    (∃ printed, (afterLoading working order tree loaded).1 = .ok printed) ↔
      ∃ api, loaded = .ok api ∧ (canHoldFiles (disk working) order.outputDir tree).1 = true ∧
        (Gem.mk api).missingName? = none ∧
        Takes (directorySink (disk working) order.outputDir) tree (Gem.mk api).files := by
  cases loaded with
  | error error => simp [afterLoading]
  | ok api =>
    rw [afterLoading, makeGem_of_build ⟨api⟩ dryRun]
    cases accepted : (canHoldFiles (disk working) order.outputDir tree).1 with
    | false =>
      rw [writeGem_of_refused ⟨api⟩ accepted]
      simp
    | true =>
      rw [writeGem_of_accepted ⟨api⟩ accepted]
      simp only [exists_map_mapError_eq_ok, Gem.exists_build_eq_ok, Except.ok.injEq,
        exists_eq_left', true_and]

theorem afterLoading_untouched (dryRun : order.dryRun = false)
    (wrong : ∀ api, loaded = .ok api →
      (canHoldFiles (disk working) order.outputDir tree).1 = true →
        (Gem.mk api).missingName? ≠ none) :
    (afterLoading working order tree loaded).2 = tree := by
  cases loaded with
  | error error => rfl
  | ok api =>
    rw [afterLoading, makeGem_of_build ⟨api⟩ dryRun]
    cases accepted : (canHoldFiles (disk working) order.outputDir tree).1 with
    | false => rw [writeGem_of_refused ⟨api⟩ accepted]
    | true =>
      obtain ⟨missing, lacks⟩ := Option.ne_none_iff_exists'.mp (wrong api rfl accepted)
      rw [writeGem_of_accepted ⟨api⟩ accepted, Gem.build_of_error (Gem.render_of_missing lacks)]

end AfterLoading

section Runs

variable (working : Location) (workingName : Option String) (config dir : String) (tree : FileTree)

def buildRun : Outcome × FileTree :=
  run (disk working) workingName (buildArguments config dir) tree

def dryRun : Outcome × FileTree :=
  run (disk working) workingName (dryRunArguments config dir) tree

def loadedFrom : Except LoadError Config :=
  (Config.load (disk working) workingName ⟨config⟩ tree).1

structure Rehearsed : Prop where
  code : (buildRun working workingName config dir tree).1.code = 0 ∨
    (buildRun working workingName config dir tree).1.code = 1
  /-- A build succeeds just where nothing is wrong and every file is taken. -/
  succeeds : (buildRun working workingName config dir tree).1.code = 0 ↔
    ∃ api, loadedFrom working workingName config tree = .ok api ∧
      (canHoldFiles (disk working) ⟨dir⟩ tree).1 = true ∧
      (Gem.mk api).missingName? = none ∧
      Takes (directorySink (disk working) ⟨dir⟩) tree (Gem.mk api).files
  /-- What is wrong before the first file is written leaves everything as it was. -/
  untouched : (∀ api, loadedFrom working workingName config tree = .ok api →
      (canHoldFiles (disk working) ⟨dir⟩ tree).1 = true → (Gem.mk api).missingName? ≠ none) →
    (buildRun working workingName config dir tree).2 = tree
  dryRun_untouched : (dryRun working workingName config dir tree).2 = tree
  dryRun_code : (dryRun working workingName config dir tree).1.code = 0 ∨
    (dryRun working workingName config dir tree).1.code = 1
  dryRun_succeeds : (dryRun working workingName config dir tree).1.code = 0 ↔
    ∃ api, loadedFrom working workingName config tree = .ok api ∧ (Gem.mk api).missingName? = none
  /-- The files that a build reports are those that its dry run has printed. -/
  foreseen : (buildRun working workingName config dir tree).1.code = 0 →
    ∃ api files, loadedFrom working workingName config tree = .ok api ∧
      (Gem.mk api).render = .ok files ∧
      (Gem.mk api).build (directorySink (disk working) ⟨dir⟩) tree =
        (.ok (files.map File.path), (buildRun working workingName config dir tree).2) ∧
      (buildRun working workingName config dir tree).1.printed =
        Text.bytes ("Wrapper generated successfully (" ++ toString files.length ++ " files)\n") ∧
      (dryRun working workingName config dir tree).1.code = 0 ∧
      (dryRun working workingName config dir tree).1.printed =
        Text.bytes (shown files ++ "Dry run complete (" ++ toString files.length ++ " files)\n")

variable {config dir} (asks : AskForBuild config dir)
include asks

theorem buildRun_eq : ∃ warnings, buildRun working workingName config dir tree =
    (outcomeOf warnings (afterLoading working { configFile := ⟨config⟩, outputDir := ⟨dir⟩ } tree
        (loadedFrom working workingName config tree)).1,
      (afterLoading working { configFile := ⟨config⟩, outputDir := ⟨dir⟩ } tree
        (loadedFrom working workingName config tree)).2) := by
  obtain ⟨config_isValue, dir_isValue⟩ := askForBuild_iff.mp asks
  exact run_eq (ofArguments?_build config_isValue dir_isValue) rfl

theorem dryRun_eq : ∃ warnings, dryRun working workingName config dir tree =
    (outcomeOf warnings (((loadedFrom working workingName config tree).mapError .unloaded).bind
      fun api => printGem ⟨api⟩), tree) := by
  obtain ⟨config_isValue, dir_isValue⟩ := askForBuild_iff.mp asks
  obtain ⟨warnings, ran⟩ : ∃ warnings, dryRun working workingName config dir tree = _ :=
    run_eq (ofArguments?_dryRun config_isValue dir_isValue) rfl
  rw [afterLoading_of_dryRun rfl] at ran
  exact ⟨warnings, ran⟩

theorem buildRun_of_takes {api : Config}
    (loaded : loadedFrom working workingName config tree = .ok api)
    (accepted : (canHoldFiles (disk working) ⟨dir⟩ tree).1 = true) {files : List File}
    (rendered : (Gem.mk api).render = .ok files)
    (takes : Takes (directorySink (disk working) ⟨dir⟩) tree files) :
    (buildRun working workingName config dir tree).1.printed =
        Text.bytes ("Wrapper generated successfully (" ++ toString files.length ++ " files)\n") ∧
      (Gem.mk api).build (directorySink (disk working) ⟨dir⟩) tree =
        (.ok (files.map File.path), (buildRun working workingName config dir tree).2) := by
  obtain ⟨warnings, built⟩ := buildRun_eq working workingName tree asks
  have made : (Gem.mk api).build (directorySink (disk working) ⟨dir⟩) tree =
      (.ok (files.map File.path), stateAfter (directorySink (disk working) ⟨dir⟩) tree files) := by
    rw [Gem.build_of_ok rendered, writeFiles_of_takes takes]
    rfl
  rw [loaded, afterLoading, makeGem_of_build ⟨api⟩ rfl, writeGem_of_accepted ⟨api⟩ accepted,
    made] at built
  have opens : "Wrapper generated successfully" ++ " (" = "Wrapper generated successfully (" :=
    String.toList_inj.mp rfl
  rw [built, made, ← summary_eq opens]
  simp [Except.mapError, Except.map, outcomeOf]

theorem dryRun_of_render {api : Config}
    (loaded : loadedFrom working workingName config tree = .ok api) {files : List File}
    (rendered : (Gem.mk api).render = .ok files) :
    (dryRun working workingName config dir tree).1.code = 0 ∧
      (dryRun working workingName config dir tree).1.printed =
        Text.bytes (shown files ++ "Dry run complete (" ++ toString files.length ++
          " files)\n") := by
  obtain ⟨warnings, dry⟩ := dryRun_eq working workingName tree asks
  rw [dry, loaded, ← printout_summary_eq]
  have printed :
      printGem ⟨api⟩ = .ok (printoutOf files ++ summary "Dry run complete" files.length) := by
    rw [printGem_eq, rendered]
    rfl
  simp only [Except.mapError, Except.bind, printed, outcomeOf, and_self]

/-- A build that goes wrong before its first file has changed nothing, and one that succeeds has
written what its dry run prints. -/
theorem rehearsed_of_askForBuild : Rehearsed working workingName config dir tree := by
  obtain ⟨said, built⟩ := buildRun_eq working workingName tree asks
  obtain ⟨said', dry⟩ := dryRun_eq working workingName tree asks
  have succeeds : (buildRun working workingName config dir tree).1.code = 0 ↔
      ∃ api, loadedFrom working workingName config tree = .ok api ∧
        (canHoldFiles (disk working) ⟨dir⟩ tree).1 = true ∧
        (Gem.mk api).missingName? = none ∧
        Takes (directorySink (disk working) ⟨dir⟩) tree (Gem.mk api).files := by
    rw [built, code_outcomeOf_eq_zero, exists_afterLoading_eq_ok rfl]
  constructor
  case code =>
    rw [built]
    exact code_outcomeOf_or
  case succeeds => exact succeeds
  case untouched =>
    intro wrong
    rw [built]
    exact afterLoading_untouched rfl wrong
  case dryRun_untouched => rw [dry]
  case dryRun_code =>
    rw [dry]
    exact code_outcomeOf_or
  case dryRun_succeeds =>
    rw [dry, code_outcomeOf_eq_zero]
    cases loadedFrom working workingName config tree with
    | error error => simp [Except.mapError, Except.bind]
    | ok api => simp [Except.mapError, Except.bind, exists_printGem_eq_ok]
  case foreseen =>
    intro succeeded
    obtain ⟨api, loaded, accepted, complete, takes⟩ := succeeds.mp succeeded
    have rendered := Gem.render_of_complete complete
    obtain ⟨printed, made⟩ :=
      buildRun_of_takes working workingName tree asks loaded accepted rendered takes
    obtain ⟨code, printout⟩ := dryRun_of_render working workingName tree asks loaded rendered
    exact ⟨api, (Gem.mk api).files, loaded, rendered, made, printed, code, printout⟩

end Runs

def workshop : FileTree where
  entries := [
    (["work"], .directory), (["work", "api.yaml"], .file "\n".toUTF8),
    (["work", "out"], .directory), (["work", "out", "README.md"], .file "older".toUTF8) ]

theorem rehearsed_workshop : AskForBuild "api.yaml" "out" ∧
    (buildRun ["work"] (some "work") "api.yaml" "out" workshop).1.code = 0 ∧
    Rehearsed ["work"] (some "work") "api.yaml" "out" workshop := by
  have asks : AskForBuild "api.yaml" "out" := askForBuild_iff.mpr (by decide)
  have succeeds : (buildRun ["work"] (some "work") "api.yaml" "out" workshop).1.code = 0 := by
    decide +kernel
  exact ⟨asks, succeeds, rehearsed_of_askForBuild ["work"] (some "work") workshop asks⟩

end ClientGem.Command
