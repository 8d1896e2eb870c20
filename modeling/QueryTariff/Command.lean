import QueryTariff.Estimate
import QueryTariff.Text.Digits

/-!
The command line: which arguments ask for what.

Arguments are read from left to right, and the first one that asks for help or is wrong decides.
-/

namespace QueryTariff

/-- What help can be about. -/
inductive Topic where
  | overview
  | estimate
  | inline
  | help
deriving DecidableEq, Repr

/-- Reasons to stop reading arguments. -/
inductive Stop where
  | usage
  | help (topic : Topic)
  | version
deriving DecidableEq, Repr

/-- What `estimate` is asked to do. -/
structure EstimateCommand where
  schemaPaths : List String
  queryFile : String
  extensions : List String
  json : Bool
  maxDepth : Nat
  maxSelections : Nat
  operationName? : Option String
  variablesFile? : Option String
  weightsFile? : Option String
deriving DecidableEq, Repr

inductive Command where
  | estimate (c : EstimateCommand)
  | inline (queryFile : String)
deriving DecidableEq, Repr

/-- A command, or none, and whether to log more than usual. -/
structure Invocation where
  verbose : Bool
  command? : Option Command
deriving DecidableEq, Repr

namespace Command

/-! ### Words -/

/-- What a word on the command line looks like. -/
inductive Word where
  /-- Two dashes: only plain words follow. -/
  | escape
  | long (name : String) (value? : Option String)
  | shorts (letters : List Char)
  | plain
deriving DecidableEq, Repr

/-- Splits at the first equals sign. -/
def splitValue (cs : List Char) : String × Option String :=
  let name := cs.takeWhile (· ≠ '=')
  match cs.drop name.length with
  | [] => (String.ofList name, none)
  | _ :: value => (String.ofList name, some (String.ofList value))

def word (a : String) : Word :=
  match a.toList with
  | ['-', '-'] => .escape
  | '-' :: '-' :: cs =>
    match splitValue cs with
    | (name, value?) => .long name value?
  | ['-'] => .plain
  | '-' :: cs => .shorts cs
  | _ => .plain

/-- A flag, an option with its value, or a plain word. -/
inductive Occurrence where
  | flag (name : String)
  | option (name value : String)
  | positional (value : String)
deriving DecidableEq, Repr

/-- The flags and options that a command knows, with their letters. -/
structure Vocabulary where
  flags : List (String × Option Char)
  options : List (String × Option Char)

namespace Vocabulary

def hasFlag (v : Vocabulary) (name : String) : Bool := v.flags.any (·.1 = name)

def hasOption (v : Vocabulary) (name : String) : Bool := v.options.any (·.1 = name)

def flagOf? (v : Vocabulary) (c : Char) : Option String :=
  (v.flags.find? (·.2 = some c)).map Prod.fst

def optionOf? (v : Vocabulary) (c : Char) : Option String :=
  (v.options.find? (·.2 = some c)).map Prod.fst

end Vocabulary

variable {σ : Type}

/-- Takes letters behind one dash. An option takes the other letters for its value, without an
equals sign before them; if there are none, its name is given back and its value is the next word.
-/
def letters (v : Vocabulary) (step : σ → Occurrence → Except Stop σ) :
    σ → List Char → Except Stop (σ × Option String)
  | s, [] => .ok (s, none)
  | s, c :: cs =>
    match v.flagOf? c, v.optionOf? c with
    | some name, _ => do letters v step (← step s (.flag name)) cs
    | none, some name =>
      match cs with
      | [] => .ok (s, some name)
      | '=' :: value => do return (← step s (.option name (String.ofList value)), none)
      | value => do return (← step s (.option name (String.ofList value)), none)
    | none, none => .error .usage

/-- Reads the words of a command one after the other. -/
def read (v : Vocabulary) (step : σ → Occurrence → Except Stop σ) :
    (escaped : Bool) → σ → List String → Except Stop σ
  | _, s, [] => .ok s
  | true, s, a :: rest => do read v step true (← step s (.positional a)) rest
  | false, s, a :: rest =>
    match word a with
    | .escape => read v step true s rest
    | .plain => do read v step false (← step s (.positional a)) rest
    | .long name value? =>
      if v.hasFlag name then
        match value? with
        | none => do read v step false (← step s (.flag name)) rest
        | some _ => .error .usage
      else if v.hasOption name then
        match value?, rest with
        | some value, rest => do read v step false (← step s (.option name value)) rest
        | none, value :: rest =>
          if word value = .plain then do read v step false (← step s (.option name value)) rest
          else .error .usage
        | none, [] => .error .usage
      else .error .usage
    | .shorts cs => do
      match ← letters v step s cs, rest with
      | (s, none), rest => read v step false s rest
      | (s, some name), value :: rest =>
        if word value = .plain then do read v step false (← step s (.option name value)) rest
        else .error .usage
      | (_, some _), [] => .error .usage

/-! ### Values -/

/-- A number of 64 bits; a plus sign may stand before it. -/
def number? (s : String) : Option Nat :=
  let digits := match s.toList with
    | '+' :: r => r
    | cs => cs
  if digits.isEmpty || !digits.all Char.isDigit then none
  else
    let n := Text.natOfDigits digits
    if n ≤ 0xFFFFFFFFFFFFFFFF then some n else none

/-- A value that may be given once only. -/
def once {α : Type} (slot : Option α) (value : α) : Except Stop (Option α) :=
  match slot with
  | none => .ok (some value)
  | some _ => .error .usage

/-- A flag that may be given once only. -/
def raise (flag : Bool) : Except Stop Bool := if flag then .error .usage else .ok true

/-- A path must not be empty. -/
def path (s : String) : Except Stop String := if s.isEmpty then .error .usage else .ok s

def number (s : String) : Except Stop Nat :=
  match number? s with
  | some n => .ok n
  | none => .error .usage

/-! ### The commands -/

/-- What the words after `estimate` have asked for so far. -/
structure EstimateWords where
  verbose : Bool := false
  json : Bool := false
  schemaPaths : List String := []
  queryFile? : Option String := none
  extensions? : Option (List String) := none
  maxDepth? : Option Nat := none
  maxSelections? : Option Nat := none
  operationName? : Option String := none
  variablesFile? : Option String := none
  weightsFile? : Option String := none

def estimateVocabulary : Vocabulary where
  flags := [("help", some 'h'), ("verbose", some 'v'), ("json", none)]
  options := [("schema", some 's'), ("graphql-file-exts", none), ("max-depth", none),
    ("max-expanded-selections", none), ("operation-name", none), ("type-costs-file", none),
    ("variables-file", none)]

def estimateStep (w : EstimateWords) : Occurrence → Except Stop EstimateWords
  | .flag "help" => .error (.help .estimate)
  | .flag "verbose" => do return { w with verbose := ← raise w.verbose }
  | .flag "json" => do return { w with json := ← raise w.json }
  | .option "schema" p => do return { w with schemaPaths := w.schemaPaths ++ [← path p] }
  | .option "graphql-file-exts" s =>
    .ok { w with extensions? := some (w.extensions?.getD [] ++ s.splitOn ",") }
  | .option "max-depth" s => do return { w with maxDepth? := ← once w.maxDepth? (← number s) }
  | .option "max-expanded-selections" s => do
    return { w with maxSelections? := ← once w.maxSelections? (← number s) }
  | .option "operation-name" s => do
    return { w with operationName? := ← once w.operationName? s }
  | .option "type-costs-file" p => do
    return { w with weightsFile? := ← once w.weightsFile? (← path p) }
  | .option "variables-file" p => do
    return { w with variablesFile? := ← once w.variablesFile? (← path p) }
  | .positional p => do return { w with queryFile? := ← once w.queryFile? (← path p) }
  | _ => .error .usage

/-- The extensions of schema files unless others are asked for. -/
def defaultExtensions : List String := ["graphql", "graphqls"]

/-- A query file and at least one schema path must be given. -/
def estimateCommand (w : EstimateWords) : Except Stop Command :=
  match w.queryFile?, w.schemaPaths with
  | some queryFile, _ :: _ => .ok (.estimate
    { schemaPaths := w.schemaPaths
      queryFile := queryFile
      extensions := w.extensions?.getD defaultExtensions
      json := w.json
      maxDepth := w.maxDepth?.getD defaultMaxDepth
      maxSelections := w.maxSelections?.getD Expansion.defaultLimit
      operationName? := w.operationName?
      variablesFile? := w.variablesFile?
      weightsFile? := w.weightsFile? })
  | _, _ => .error .usage

/-- What the words after `inline` have asked for so far. -/
structure InlineWords where
  verbose : Bool := false
  queryFile? : Option String := none

def inlineVocabulary : Vocabulary where
  flags := [("help", some 'h'), ("verbose", some 'v')]
  options := []

def inlineStep (w : InlineWords) : Occurrence → Except Stop InlineWords
  | .flag "help" => .error (.help .inline)
  | .flag "verbose" => do return { w with verbose := ← raise w.verbose }
  | .positional p => do return { w with queryFile? := ← once w.queryFile? (← path p) }
  | _ => .error .usage

/-- What help the words after `help` ask for. -/
def helpTopic : List String → Stop
  | [] => .help .overview
  | ["estimate"] => .help .estimate
  | ["inline"] => .help .inline
  | ["help"] => .help .help
  | _ => .usage

/-- The command that a word names, with the words after it. -/
def subcommand (verbose : Bool) (name : String) (rest : List String) : Except Stop Invocation :=
  match name with
  | "estimate" => do
    let w ← read estimateVocabulary estimateStep false {} rest
    return ⟨verbose || w.verbose, some (← estimateCommand w)⟩
  | "inline" => do
    let w ← read inlineVocabulary inlineStep false {} rest
    match w.queryFile? with
    | some queryFile => return ⟨verbose || w.verbose, some (.inline queryFile)⟩
    | none => .error .usage
  | "help" => .error (helpTopic rest)
  | _ => .error .usage

def mainVocabulary : Vocabulary where
  flags := [("help", some 'h'), ("verbose", some 'v'), ("version", some 'V')]
  options := []

def mainStep (verbose : Bool) : Occurrence → Except Stop Bool
  | .flag "help" => .error (.help .overview)
  | .flag "version" => .error .version
  | .flag "verbose" => raise verbose
  | _ => .error .usage

/-- Reads the words before a command, and then the command. -/
def readMain (verbose : Bool) : List String → Except Stop Invocation
  | [] => .ok ⟨verbose, none⟩
  | a :: rest =>
    match word a with
    | .escape => if rest.isEmpty then .ok ⟨verbose, none⟩ else .error .usage
    | .plain => subcommand verbose a rest
    | .long name none =>
      if mainVocabulary.hasFlag name then do readMain (← mainStep verbose (.flag name)) rest
      else .error .usage
    | .long _ (some _) => .error .usage
    | .shorts cs => do readMain (← letters mainVocabulary mainStep verbose cs).1 rest

/-- What the arguments ask for. -/
def ofArguments (arguments : List String) : Except Stop Invocation := readMain false arguments

/-- The paths that a command starts from. -/
def paths : Command → List String
  | .estimate c =>
    c.schemaPaths ++ c.variablesFile?.toList ++ c.weightsFile?.toList ++ [c.queryFile]
  | .inline queryFile => [queryFile]

end Command

end QueryTariff
