import ClientGem.Command.Arguments

/-!
The command lines that ask for a build. The name of the file and that of the directory are taken as
they are, as long as neither of them is empty or looks like a switch.
-/

namespace ClientGem.Command

def buildArguments (config dir : String) : List String :=
  ["build", config, "-o", dir]

def dryRunArguments (config dir : String) : List String :=
  buildArguments config dir ++ ["--dry-run"]

def AskForBuild (config dir : String) : Prop :=
  ∃ order, Request.ofArguments? (buildArguments config dir) = some (.build order)

def IsValue (text : String) : Prop :=
  text ≠ "" ∧ isSwitchLike text = false

instance : DecidablePred IsValue :=
  fun text => inferInstanceAs (Decidable (text ≠ "" ∧ isSwitchLike text = false))

def NameNoFile (found : List Item) : Prop :=
  ∀ item ∈ found, ∀ text, item ≠ .value text

theorem nameNoFile_readCluster (level : Level) (chars : List Char) :
    NameNoFile (readCluster level chars).1 := by
  fun_induction readCluster level chars with
  | case1 => simp [NameNoFile]
  | case2 => simp [NameNoFile]
  | case3 => simp [NameNoFile]
  | case4 => simp [NameNoFile]
  | case5 c rest switch known other items awaits cluster ih =>
    rw [cluster] at ih
    simpa [NameNoFile] using ih
  | case6 => simp [NameNoFile]

theorem nameNoFile_readLong (level : Level) (text : List Char) :
    NameNoFile (readLong level text).1 := by
  unfold readLong
  dsimp only
  split <;> simp [NameNoFile]

theorem nameNoFile_readArgument {text : String} (switchLike : isSwitchLike text = true) :
    NameNoFile (readArgument .build text).1 := by
  rw [readArgument]
  split
  · exact nameNoFile_readLong _ _
  · exact nameNoFile_readCluster _ _
  · next notLong notShort =>
    unfold isSwitchLike at switchLike
    split at switchLike
    · next c rest chars =>
      exact absurd chars (notShort c rest)
    · cases switchLike

theorem interpret_of_nameNoFile (draft : Draft) {found : List Item} (names : NameNoFile found)
    (unnamed : draft.configFile = none) (order : BuildOrder) :
    interpret draft found ≠ some (.build order) := by
  induction found generalizing draft with
  | nil => simp [interpret, Draft.order?, unnamed]
  | cons item rest ih =>
    have later : NameNoFile rest := (List.forall_mem_cons.mp names).2
    cases item with
    | switch switch =>
      cases switch with
      | verbose => exact ih draft later unnamed
      | json =>
        rw [interpret]
        split
        · nofun
        · exact ih _ later unnamed
      | dryRun =>
        rw [interpret]
        split
        · nofun
        · exact ih _ later unnamed
      | help => nofun
      | version => nofun
      | output => nofun
    | output dir =>
      rw [interpret]
      cases once draft.outputDir dir with
      | none => nofun
      | some dir => exact ih _ later unnamed
    | value text => exact absurd rfl (names (.value text) List.mem_cons_self text)
    | buildCommand => exact ih _ later rfl
    | helpCommand topics =>
      rw [interpret]
      split <;> nofun
    | wrong => nofun

theorem readArgument_of_plain (level : Level) {text : String} (plain : isSwitchLike text = false) :
    readArgument level text = ([readValue level text], false) := by
  rw [readArgument]
  split
  · next _ chars => simp [isSwitchLike, chars] at plain
  · next _ _ _ chars => simp [isSwitchLike, chars] at plain
  · rfl

theorem items_program_build (rest : List String) :
    items .program ("build" :: rest) = .buildCommand :: items .build rest := by
  rw [items, if_neg (by decide), if_pos ⟨rfl, rfl⟩]

theorem items_build_value {text : String} (plain : isSwitchLike text = false) (rest : List String) :
    items .build (text :: rest) = .value text :: items .build rest := by
  have notEnd : text ≠ "--" := by
    rintro rfl
    exact absurd plain (by decide)
  rw [items, if_neg notEnd, if_neg nofun, if_neg nofun, readArgument_of_plain .build plain]
  rfl

theorem items_build_output (dir : String) (rest : List String) :
    items .build ("-o" :: dir :: rest) =
      if isSwitchLike dir then [.wrong] else .output dir :: items .build rest := by
  have awaits : readArgument .build "-o" = ([], true) := by decide
  rw [items, if_neg (by decide), if_neg nofun, if_neg nofun, awaits]
  rfl

theorem nameNoFile_items {config : String} (switchLike : isSwitchLike config = true)
    (notEnd : config ≠ "--") (dir : String) : NameNoFile (items .build [config, "-o", dir]) := by
  have readsNone := nameNoFile_readArgument switchLike
  have behind : NameNoFile (items .build ["-o", dir]) := by
    rw [items_build_output, items]
    split <;> simp [NameNoFile]
  rw [items, if_neg notEnd, if_neg nofun, if_neg nofun]
  rcases reading : readArgument .build config with ⟨found, _ | _⟩
  · rw [reading] at readsNone
    exact List.forall_mem_append.mpr ⟨readsNone, behind⟩
  · rw [reading] at readsNone
    exact List.forall_mem_append.mpr ⟨readsNone, by simp⟩

theorem isValue_of_askForBuild {config dir : String} (asks : AskForBuild config dir) :
    IsValue config ∧ IsValue dir := by
  obtain ⟨order, asks⟩ := asks
  rw [Request.ofArguments?, buildArguments, items_program_build] at asks
  cases switchLike : isSwitchLike config with
  | true =>
    by_cases isEnd : config = "--"
    · -- Behind the end of the switches there would be two names of a file.
      subst isEnd
      cases asks
    · have unnamed := nameNoFile_items switchLike isEnd dir
      exact absurd asks (interpret_of_nameNoFile {} unnamed rfl order)
  | false =>
    rw [items_build_value switchLike, items_build_output] at asks
    cases switchLike' : isSwitchLike dir with
    | true => simp [interpret, switchLike'] at asks
    | false =>
      have filled : config ≠ "" := by
        rintro rfl
        cases asks
      have filled' : dir ≠ "" := by
        rintro rfl
        simp [interpret, once, switchLike'] at asks
      exact ⟨⟨filled, switchLike⟩, filled', switchLike'⟩

theorem ofArguments?_build {config dir : String} (config_isValue : IsValue config)
    (dir_isValue : IsValue dir) : Request.ofArguments? (buildArguments config dir) =
      some (.build { configFile := ⟨config⟩, outputDir := ⟨dir⟩ }) := by
  obtain ⟨filled, plain⟩ := config_isValue
  obtain ⟨filled', plain'⟩ := dir_isValue
  rw [Request.ofArguments?, buildArguments, items_program_build, items_build_value plain,
    items_build_output, plain']
  simp [interpret, once, items, filled, filled', Draft.order?]

theorem ofArguments?_dryRun {config dir : String} (config_isValue : IsValue config)
    (dir_isValue : IsValue dir) : Request.ofArguments? (dryRunArguments config dir) =
      some (.build { configFile := ⟨config⟩, outputDir := ⟨dir⟩, dryRun := true }) := by
  obtain ⟨filled, plain⟩ := config_isValue
  obtain ⟨filled', plain'⟩ := dir_isValue
  have dryRun : items .build ["--dry-run"] = [.switch .dryRun] := by decide
  rw [Request.ofArguments?, dryRunArguments, buildArguments, List.cons_append, items_program_build,
    List.cons_append, items_build_value plain, List.cons_append, List.singleton_append,
    items_build_output, plain', dryRun]
  simp [interpret, once, filled, filled', Draft.order?]

theorem askForBuild_iff {config dir : String} :
    AskForBuild config dir ↔ IsValue config ∧ IsValue dir :=
  ⟨isValue_of_askForBuild, fun ⟨isValue, isValue'⟩ => ⟨_, ofArguments?_build isValue isValue'⟩⟩

end ClientGem.Command
