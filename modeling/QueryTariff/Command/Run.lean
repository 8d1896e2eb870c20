import QueryTariff.Command.Help
import QueryTariff.Document.Printer
import QueryTariff.Schema.Draft

/-!
Running a command on files, up to what is printed and the exit code.
-/

namespace QueryTariff

/-- What a run leaves: its exit code, what it prints, and its log. -/
structure Outcome where
  exitCode : Nat
  stdout : String
  stderr : String
  log : List Record
deriving DecidableEq, Repr

namespace Command

/-- A step of a command; its reason to stop is a chain of texts, the outermost first. -/
abbrev Step := Logged (List String)

/-- A step that says what was being done when it stops. -/
def within {α : Type} (context : String) (x : Step α) : Step α := x.mapError (context :: ·)

def readText (disk : Disk) (path : String) : Step String :=
  .silent ((disk.readText path).mapError fun f => [f.message])

/-! ### Schema files -/

mutual

/-- The schema files below a directory. -/
def filesBelow (extensions : List String) (path : String) :
    List (String × FileNode) → List Record × List String
  | [] => ([], [])
  | (name, node) :: rest =>
    match filesAt extensions false (Path.join path name) node, filesBelow extensions path rest with
    | (log, files), (log', files') => (log ++ log', files ++ files')

/-- The schema files at a path. A file given by its own path counts whatever its extension. -/
def filesAt (extensions : List String) (direct : Bool) (path : String) :
    FileNode → List Record × List String
  | .file _ =>
    let known := match Path.extension? path with
      | some e => extensions.contains e
      | none => false
    if direct || known then
      ([⟨.trace, "Found schema file at " ++ Text.quoted path ++ "."⟩], [path])
    else ([], [])
  | .directory entries =>
    match filesBelow extensions path entries with
    | (log, files) => (⟨.trace, "Skipping non-file: " ++ Text.quoted path ++ "."⟩ :: log, files)

end

/-- How a path under which nothing stands is reported. -/
def scanFault (path : String) (fault : PathFault) : List String :=
  ["Failed to scan for schema files under " ++ Text.quoted path,
    "IO error for operation on " ++ path ++ ": " ++ fault.message, fault.message]

/-- The schema files under several paths. -/
def scan (disk : Disk) (extensions : List String) : List String → Step (List String)
  | [] => pure []
  | path :: paths => do
    let node ← .silent ((disk path).mapError (scanFault path))
    let (log, files) := filesAt extensions true path node
    .tell log
    return files ++ (← scan disk extensions paths)

/-- Dots before an extension do not count. -/
def normalizeExtension (e : String) : String := String.ofList (e.toList.dropWhile (· = '.'))

def findSchemaFiles (disk : Disk) (c : EstimateCommand) : Step (List String) := do
  .debug ("Scanning " ++ toString c.schemaPaths.length ++ " schema paths...")
  let files ← scan disk (c.extensions.map normalizeExtension) c.schemaPaths
  if files.isEmpty then
    .stop ["No schema files found (searched for extensions: " ++
      String.intercalate ", " c.extensions ++ ")."]
  else
    .debug ("Found " ++ toString files.length ++ " schema files.")
    return files

def loadSchema (disk : Disk) (c : EstimateCommand) : Step Schema := do
  let files ← findSchemaFiles disk c
  let loaded : Logged SchemaError Schema := do
    let draft ← SchemaDraft.empty.loadFiles disk files
    .silent draft.build
  loaded.mapError fun e => [e.message]

/-! ### Other inputs -/

def loadBindings (disk : Disk) : Option String → Step Bindings
  | none => pure .empty
  | some path => do
    match Json.parse? (← readText disk path) with
    | none => .stop ["Invalid variables JSON in " ++ Text.quoted path]
    | some j =>
      if j.isObject then
        .tell (Bindings.ofJsonNotes j)
        return Bindings.ofJson j
      else .stop ["Variables in " ++ Text.quoted path ++ " must be a JSON object."]

def loadWeights (disk : Disk) : Option String → Step Weights
  | none => pure .empty
  | some path => do
    match Weights.parse? (← readText disk path) with
    | none => .stop ["Invalid type-cost table in " ++ Text.quoted path]
    | some w => return w

/-! ### Commands -/

/-- The texts of an error; a cycle is also the cause of its own report. -/
def expansionChain : ExpansionError → List String
  | e@(.cyclic _) => [e.message, e.message]
  | e => [e.message]

def estimateChain : EstimateError → List String
  | .expansion e => expansionChain e
  | e => [e.message]

def estimateMetrics (disk : Disk) (c : EstimateCommand) : Step Metrics := do
  let schema ← within "Failed to load schema" (loadSchema disk c)
  let bindings ← loadBindings disk c.variablesFile?
  let weights ← loadWeights disk c.weightsFile?
  let text ← readText disk c.queryFile
  let E : Estimator :=
    { schema := schema
      bindings := bindings
      weights := weights
      operationName? := c.operationName?
      maxDepth := c.maxDepth
      maxSelections := c.maxSelections }
  within ("Failed to estimate " ++ Text.quoted c.queryFile)
    ((E.estimateText text).mapError estimateChain)

def inlineDocument (disk : Disk) (queryFile : String) : Step Document := do
  let text ← readText disk queryFile
  let d ← within ("Failed to parse " ++ Text.quoted queryFile)
    (.silent ((Document.parse text).mapError fun p => [Document.parseFault p]))
  .debug ("Parsed " ++ toString d.definitions.length ++ " definitions from " ++
    Text.quoted queryFile ++ ".")
  (d.expand Expansion.defaultLimit).mapError expansionChain

def metricsText (queryFile : String) (m : Metrics) : String :=
  "✅ Estimated " ++ Text.quoted queryFile ++ ":\n  * cost:    " ++ toString m.cost ++
    "\n  * maxNode: " ++ toString m.maxNode

def metricsJson (m : Metrics) : String :=
  "\x7b\n  \"cost\": " ++ toString m.cost ++ ",\n  \"maxNode\": " ++ toString m.maxNode ++ "\n\x7d"

/-- What is printed for the answer of a command, or for the reason why it has none. -/
def report {α : Type} (failed : String) (text : α → String) (x : Step α) : Outcome :=
  match x.result with
  | .ok a => ⟨0, text a ++ "\n", "", x.log⟩
  | .error chain => ⟨1, "", "❌ " ++ String.intercalate ": " (failed :: chain) ++ "\n", x.log⟩

def run (disk : Disk) : Command → Outcome
  | .estimate c =>
    report "Estimation failed" (if c.json then metricsJson else metricsText c.queryFile)
      (estimateMetrics disk c)
  | .inline queryFile =>
    report "Inlining failed" Document.render (inlineDocument disk queryFile)

/-! ### Logging -/

/-- The finest level to log, by the name it is asked for. -/
def levelOfName? (name : String) : Option Level :=
  if name = "TRACE" || name = "trace" then some .trace
  else if name = "DEBUG" || name = "debug" || name = "VERBOSE" || name = "verbose" then some .debug
  else if name = "INFO" || name = "info" then some .info
  else none

/-- The finest level to log, and a warning if it was asked for by a name that is none. -/
def logLevel (verbose : Bool) (setting? : Option String) : Level × List Record :=
  if verbose then (.debug, [])
  else match setting? with
    | none => (.info, [])
    | some setting =>
      let name := String.ofList (Text.trim setting.toList)
      match levelOfName? name with
      | some level => (level, [])
      | none =>
        (.info, [⟨.warn, "Invalid `LOG_LEVEL` environment variable value: `" ++ name ++ "`"⟩])

/-- Runs what was asked for. Without a command the overview is shown. -/
def invoke (disk : Disk) (setting? : Option String) (i : Invocation) : Outcome :=
  let (level, warnings) := logLevel i.verbose setting?
  let first : Record := ⟨.trace, "Initial logging level set to `" ++ level.label ++ "`."⟩
  let o := match i.command? with
    | some c => c.run disk
    | none => ⟨0, Topic.overview.text, "", []⟩
  { o with log := (first :: warnings ++ o.log).filter (level.shows ·.level) }

def stopped : Stop → Outcome
  | .usage => ⟨2, "", "error: invalid arguments\n\nFor more information, try \x27--help\x27.\n", []⟩
  | .help topic => ⟨0, topic.text, "", []⟩
  | .version => ⟨0, versionText, "", []⟩

/-- Runs the program with its arguments and the level of logging that is asked for. -/
def execute (disk : Disk) (setting? : Option String) (arguments : List String) : Outcome :=
  match ofArguments arguments with
  | .error s => stopped s
  | .ok i => invoke disk setting? i

end Command

end QueryTariff
