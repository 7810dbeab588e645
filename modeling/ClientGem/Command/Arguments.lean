import ClientGem.FilePath

/-!
The arguments of the command line. They take effect one after another: a request for help is
granted when it is reached, unless something before it is wrong.
-/

namespace ClientGem.Command

structure BuildOrder where
  configFile : FilePath
  outputDir : FilePath := ⟨"."⟩
  dryRun : Bool := false
  jsonLog : Bool := false
deriving DecidableEq, Repr

inductive Request where
  | build (order : BuildOrder)
  | help
  | version
deriving DecidableEq, Repr

inductive Switch where
  | verbose
  | json
  | help
  | version
  | output
  | dryRun
deriving DecidableEq, Repr

inductive Level where
  | program
  | build
deriving DecidableEq, Repr

def Level.short? : Level → Char → Option Switch
  | _, 'v' => some .verbose
  | _, 'h' => some .help
  | program, 'V' => some .version
  | build, 'o' => some .output
  | _, _ => none

def Level.long? : Level → String → Option Switch
  | _, "verbose" => some .verbose
  | _, "json" => some .json
  | _, "help" => some .help
  | program, "version" => some .version
  | build, "output" => some .output
  | build, "dry-run" => some .dryRun
  | _, _ => none

inductive Item where
  | switch (switch : Switch)
  | output (dir : String)
  | value (text : String)
  | buildCommand
  | helpCommand (topics : List String)
  | wrong
deriving DecidableEq, Repr

/-- The items of one argument, and whether the next argument is the value of its last switch. -/
abbrev Reading := List Item × Bool

def readCluster (level : Level) : List Char → Reading
  | [] => ([], false)
  | c :: rest =>
    match level.short? c with
    | some .output =>
      match rest with
      | [] => ([], true)
      | '=' :: value => ([.output (String.ofList value)], false)
      | value => ([.output (String.ofList value)], false)
    | some switch =>
      let (items, awaits) := readCluster level rest
      (.switch switch :: items, awaits)
    | none => ([.wrong], false)

def readLong (level : Level) (text : List Char) : Reading :=
  let name := String.ofList (text.takeWhile (· != '='))
  match level.long? name, text.dropWhile (· != '=') with
  | some .output, [] => ([], true)
  | some .output, _ :: value => ([.output (String.ofList value)], false)
  | some switch, [] => ([.switch switch], false)
  | _, _ => ([.wrong], false)

def readValue (level : Level) (text : String) : Item :=
  match level with
  | .build => .value text
  | .program => .wrong

def readArgument (level : Level) (arg : String) : Reading :=
  match arg.toList with
  | '-' :: '-' :: text => readLong level text
  | '-' :: c :: rest => readCluster level (c :: rest)
  | _ => ([readValue level arg], false)

def isSwitchLike (arg : String) : Bool :=
  match arg.toList with
  | '-' :: _ :: _ => true
  | _ => false

def items (level : Level) : List String → List Item
  | [] => []
  | arg :: rest =>
    if arg = "--" then rest.map (readValue level)
    else if level = .program ∧ arg = "build" then .buildCommand :: items .build rest
    else if level = .program ∧ arg = "help" then [.helpCommand rest]
    else
      match readArgument level arg with
      | (found, false) => found ++ items level rest
      | (found, true) =>
        match rest with
        | [] => found ++ [.wrong]
        | value :: rest =>
          if isSwitchLike value then found ++ [.wrong]
          else found ++ .output value :: items level rest

structure Draft where
  /-- A log as JSON was already asked for before the name of the command. -/
  jsonBefore : Bool := false
  json : Bool := false
  dryRun : Bool := false
  configFile : Option String := none
  outputDir : Option String := none
deriving DecidableEq, Repr

/-- A value that may be given once, and not as an empty text. -/
def once (earlier : Option String) (value : String) : Option String :=
  if earlier.isSome || value.isEmpty then none else some value

def Draft.order? (draft : Draft) : Option BuildOrder :=
  draft.configFile.map fun configFile =>
    { configFile := ⟨configFile⟩
      outputDir := ⟨draft.outputDir.getD "."⟩
      dryRun := draft.dryRun
      jsonLog := draft.jsonBefore || draft.json }

def topics : List (List String) :=
  [[], ["build"], ["help"]]

def interpret (draft : Draft) : List Item → Option Request
  | [] => draft.order?.map .build
  | .switch .verbose :: rest => interpret draft rest
  | .switch .json :: rest => if draft.json then none else interpret { draft with json := true } rest
  | .switch .dryRun :: rest =>
    if draft.dryRun then none else interpret { draft with dryRun := true } rest
  | .switch .help :: _ => some .help
  | .switch .version :: _ => some .version
  | .switch .output :: _ => none
  | .output dir :: rest => do
    interpret { draft with outputDir := some (← once draft.outputDir dir) } rest
  | .value text :: rest => do
    interpret { draft with configFile := some (← once draft.configFile text) } rest
  | .buildCommand :: rest => interpret { jsonBefore := draft.json } rest
  | .helpCommand on :: _ => if topics.contains on then some .help else none
  | .wrong :: _ => none

def usage : String :=
  "\n".intercalate
    [ "Generates a client gem from the description of an API.",
      "",
      "Usage: clientsmith [-v...] [--json] build CONFIG_FILE [-o DIR] [--dry-run]",
      "",
      "  -o, --output DIR   the directory the gem is written into, by default the current one",
      "      --dry-run      print the files instead of writing them",
      "  -v, --verbose      say more",
      "      --json         log as JSON",
      "  -h, --help         print this text",
      "  -V, --version      print the version" ]

def Request.ofArguments? (args : List String) : Option Request :=
  interpret {} (items .program args)

end ClientGem.Command
