import DocLint.Batch
import DocLint.Config.Settings
import DocLint.Fragment.Json
import DocLint.Report.Json

/-!
# The command line

There are two commands: `check` reads a batch of fragments and writes the report, `keys` lists the
keys of tags. `Invocation.parse` reads the arguments. `Command.execute` is what a command does,
given what it finds in its surroundings: it writes to an output, and it may fail. `Command.run`
starts it with an empty output. It is assumed that writing always succeeds.
-/

namespace DocLint

/-! ## Arguments -/

/-- How a report is written. -/
inductive Format
  | text
  | json
  deriving DecidableEq, Repr

def Format.ofName? : String → Option Format
  | "text" => some .text
  | "json" => some .json
  | _ => none

/-- The options of `check`. -/
structure CheckOptions where
  /-- The file with the fragments; a dash stands for the standard input. -/
  input : String
  config : Option String := none
  format : Format := .text
  strict : Bool := false
  deriving DecidableEq, Repr

/-- What is to be done. -/
inductive Command
  | check (options : CheckOptions)
  | keys (category : Option Category)
  deriving DecidableEq, Repr

/-- Why arguments lead to no command: the user asks for help, or misuses the program. -/
inductive Refusal
  | help
  | misuse
  deriving DecidableEq, Repr

/-- The status with which the program ends instead of running a command. -/
def Refusal.exitCode : Refusal → Nat
  | help => 0
  | misuse => 2

/-- A command, and whether it tells what it does. -/
structure Invocation where
  verbose : Bool
  command : Command
  deriving DecidableEq, Repr

/-- The options that arguments can have. -/
inductive Switch
  | verbose
  | help
  | config
  | format
  | strict
  | category
  deriving DecidableEq, Repr

/-- Whether an option has a value. -/
def Switch.hasValue : Switch → Bool
  | config | format | category => true
  | _ => false

/-- The commands by name. -/
inductive CommandName
  | check
  | keys
  deriving DecidableEq, Repr

namespace CommandName

def ofText? : String → Option CommandName
  | "check" => some check
  | "keys" => some keys
  | _ => none

/-- The option of a command with a long name. -/
def longSwitch? : CommandName → String → Option Switch
  | _, "verbose" => some .verbose
  | _, "help" => some .help
  | check, "config" => some .config
  | check, "format" => some .format
  | check, "strict" => some .strict
  | keys, "category" => some .category
  | _, _ => none

/-- The option of a command with a letter. -/
def shortSwitch? : CommandName → Char → Option Switch
  | _, 'v' => some .verbose
  | _, 'h' => some .help
  | check, 'c' => some .config
  | check, 'f' => some .format
  | _, _ => none

end CommandName

/-- What the arguments after a command have given so far. -/
structure Given where
  verbose : Bool := false
  strict : Bool := false
  config : Option String := none
  format : Option Format := none
  category : Option Category := none
  input : Option String := none
  deriving DecidableEq, Repr

namespace Given

/-- Takes in an option without a value, which may be given once; help is given at once. -/
def flag (g : Given) : Switch → Except Refusal Given
  | .verbose => if g.verbose then .error .misuse else .ok { g with verbose := true }
  | .strict => if g.strict then .error .misuse else .ok { g with strict := true }
  | .help => .error .help
  | .config | .format | .category => .error .misuse

/-- Takes in an option with a value, which may be given once. -/
def value (g : Given) (s : Switch) (v : String) : Except Refusal Given :=
  match s with
  | .config => if g.config.isSome || v = "" then .error .misuse else .ok { g with config := some v }
  | .format =>
    match g.format, Format.ofName? v with
    | none, some f => .ok { g with format := some f }
    | _, _ => .error .misuse
  | .category =>
    match g.category, Category.read v with
    | none, .ok c => .ok { g with category := some c }
    | _, _ => .error .misuse
  | .verbose | .strict | .help => .error .misuse

/-- Takes in an argument that is no option: the input of `check`, which must not be empty. -/
def plain (g : Given) (name : CommandName) (a : String) : Except Refusal Given :=
  match name, g.input with
  | .check, none => if a = "" then .error .misuse else .ok { g with input := some a }
  | _, _ => .error .misuse

/-- Takes in a group of letters after a dash: options without a value, then perhaps one with a
value, which is the rest of the group or, if that is empty, the next argument. -/
def letters (g : Given) (name : CommandName) : List Char → Except Refusal (Given × Option Switch)
  | [] => .ok (g, none)
  | c :: rest =>
    match name.shortSwitch? c with
    | none => .error .misuse
    | some s =>
      if s.hasValue then
        match rest with
        | [] => .ok (g, some s)
        | '=' :: v => (g.value s (String.ofList v)).map fun g => (g, none)
        | v => (g.value s (String.ofList v)).map fun g => (g, none)
      else
        match g.flag s with
        | .error e => .error e
        | .ok g => letters g name rest

end Given

/-- The forms of an argument. -/
inductive Argument
  /-- Two dashes: no options follow. -/
  | endOfOptions
  /-- Two dashes and a name, perhaps with a value after the sign `=`. -/
  | long (name : String) (value : Option String)
  /-- A dash and letters. -/
  | short (letters : List Char)
  /-- Anything else, also a dash alone. -/
  | plain (text : String)
  deriving DecidableEq, Repr

/-- The form of an argument. -/
def Argument.ofString (a : String) : Argument :=
  match a.toList with
  | ['-', '-'] => .endOfOptions
  | '-' :: '-' :: rest =>
    .long (String.ofList (rest.takeWhile (· != '='))) <|
      match rest.dropWhile (· != '=') with
      | [] => none
      | _ :: v => some (String.ofList v)
  | '-' :: c :: rest => .short (c :: rest)
  | _ => .plain a

/-- Whether an argument can be the value of the option before it. -/
def Argument.isValue (a : String) : Bool :=
  match ofString a with
  | .plain _ => true
  | _ => false

namespace CommandName

/-- Reads the arguments after a command. The first fault or call for help decides. -/
def parse (name : CommandName) (g : Given) : List String → Except Refusal Given
  | [] => .ok g
  | a :: rest =>
    /- an option that takes the next argument as its value -/
    let withNext (g : Given) (s : Switch) : Except Refusal Given :=
      match rest with
      | [] => .error .misuse
      | v :: rest =>
        if Argument.isValue v then
          match g.value s v with
          | .error e => .error e
          | .ok g => parse name g rest
        else .error .misuse
    match Argument.ofString a with
    | .endOfOptions => rest.foldlM (fun g a => g.plain name a) g
    | .plain a =>
      match g.plain name a with
      | .error e => .error e
      | .ok g => parse name g rest
    | .short cs =>
      match g.letters name cs with
      | .error e => .error e
      | .ok (g, none) => parse name g rest
      | .ok (g, some s) => withNext g s
    | .long long value =>
      match name.longSwitch? long, value with
      | none, _ => .error .misuse
      | some s, some v =>
        match g.value s v with
        | .error e => .error e
        | .ok g => parse name g rest
      | some s, none =>
        if s.hasValue then withNext g s
        else match g.flag s with
          | .error e => .error e
          | .ok g => parse name g rest

/-- The command with what its arguments gave; `check` must have an input. -/
def finish : CommandName → Given → Except Refusal Command
  | check, g =>
    match g.input with
    | none => .error .misuse
    | some input =>
      .ok <| .check
        { input
          config := g.config
          format := g.format.getD .text
          strict := g.strict }
  | keys, g => .ok (.keys g.category)

end CommandName

namespace Invocation

/-- The letters of a group before the command: help and version are given at once, and `v` may stand
once. -/
def letters (verbose : Bool) : List Char → Except Refusal Bool
  | [] => .ok verbose
  | 'v' :: rest => if verbose then .error .misuse else letters true rest
  | 'h' :: _ | 'V' :: _ => .error .help
  | _ => .error .misuse

/-- What to answer to the command `help` with arguments: these name one command at most. -/
def helpOn : List String → Refusal
  | [] => .help
  | [name] => if name = "help" || (CommandName.ofText? name).isSome then .help else .misuse
  | _ => .misuse

/-- Reads arguments; `verbose` if that was given before them. -/
def parseFrom (verbose : Bool) : List String → Except Refusal Invocation
  | [] => .error .misuse
  | a :: rest =>
    match CommandName.ofText? a with
    | some name => do
      let g ← name.parse {} rest
      let command ← name.finish g
      return ⟨verbose || g.verbose, command⟩
    | none =>
      if a = "help" then .error (helpOn rest)
      else match Argument.ofString a with
        | .short cs =>
          match letters verbose cs with
          | .error e => .error e
          | .ok verbose => parseFrom verbose rest
        | .long "verbose" none => if verbose then .error .misuse else parseFrom true rest
        | .long "help" none | .long "version" none => .error .help
        | _ => .error .misuse

/-- Reads arguments. -/
def parse (args : List String) : Except Refusal Invocation := parseFrom false args

end Invocation

/-! ## Running -/

/-- What a command finds in its surroundings. -/
structure Surroundings where
  /-- The text of a file; none if it cannot be read as text. -/
  read : String → Option String
  /-- The text of the standard input; none if it cannot be read as text. -/
  standardInput : Option String
  /-- The path of the user's configuration file, if there is one. -/
  userConfig : Option String

/-- Why a command fails before it writes anything. That the output does not take what is written is
none of the reasons: see `Action`. -/
inductive CommandFailure
  | inputUnreadable (path : String)
  | standardInputUnreadable
  | inputMalformed (path : String)
  | configUnreadable (path : String)
  | configMalformed (path : String)
  deriving DecidableEq, Repr

/-- The wording of a failure. -/
def CommandFailure.message : CommandFailure → String
  | inputUnreadable path => "reading " ++ path
  | standardInputUnreadable => "reading fragments from stdin"
  | inputMalformed path => "parsing fragments from " ++ path
  | configUnreadable path | configMalformed path => "loading config " ++ path

/-- What a command writes, and whether all is well. -/
structure Output where
  text : String
  clean : Bool
  deriving DecidableEq, Repr

/-- What a command does: it writes behind what is in the output already, and it may fail. The output
is assumed to take whatever is written; with one that does not (a closed pipe, a full disk), a
command may also fail while it writes, and then has written a part of its text. -/
abbrev Action := ExceptT CommandFailure (StateM String)

namespace Action

/-- Writes a text, which always succeeds. -/
def write (text : String) : Action Unit := modify (· ++ text)

/-- How an action ends that finds `out` in the output, and what is in the output then. -/
def runFrom {α : Type} (a : Action α) (out : String) : Except CommandFailure α × String :=
  StateT.run (ExceptT.run a) out

end Action

/-- The path of the user's configuration file within the directory for such files. -/
def userConfigFile : String := "metacheck/metacheck.toml"

/-- What the program logs, given what is set to be logged anyway. -/
def logFilter (verbose : Bool) : String :=
  if verbose then "metacheck_core=debug,metacheck_cli=debug,error" else "error"

namespace Command

/-- The configuration in a file. -/
def loadConfig (s : Surroundings) (path : String) : Except CommandFailure Config :=
  match s.read path with
  | none => .error (.configUnreadable path)
  | some text =>
    match Config.parse text with
    | none => .error (.configMalformed path)
    | some c => .ok c

/-- The configuration that applies: the strict one, the one in the given file, the user's one, or
the default. -/
def config (s : Surroundings) (o : CheckOptions) : Except CommandFailure Config :=
  if o.strict then .ok .strict
  else match o.config <|> s.userConfig with
    | some path => loadConfig s path
    | none => .ok {}

/-- Whether a path stands for the standard input: a dash, perhaps with slashes and dots after it. -/
def isStandardInput (path : String) : Bool :=
  match Text.pieces '/' path.toList with
  | ['-'] :: rest => rest.all fun p => p == [] || p == ['.']
  | _ => false

/-- The text of the input. -/
def readInput (s : Surroundings) (path : String) : Except CommandFailure String :=
  if isStandardInput path then
    match s.standardInput with
    | none => .error .standardInputUnreadable
    | some text => .ok text
  else
    match s.read path with
    | none => .error (.inputUnreadable path)
    | some text => .ok text

/-- Writes a report and ends its last line. -/
def writeReport (r : Report) : Format → Action Unit
  | .text => Action.write (r.text ++ "\n")
  | .json => do
    Action.write r.prettyJson
    Action.write "\n"

/-- Checks the batch in the input and writes the report; tells whether all is well. The
configuration is loaded before the input is read. -/
def executeCheck (s : Surroundings) (o : CheckOptions) : Action Bool := do
  let config ← config s o
  let text ← readInput s o.input
  match Fragment.parseBatch text with
  | none => throw (.inputMalformed o.input)
  | some batch =>
    let report := (Batch.check batch config).report
    writeReport report o.format
    return !report.hasErrors

/-- The line that lists the keys of a category. -/
def keysLine (c : Category) : String :=
  c.name ++ ": " ++ ", ".intercalate (c.keys.map Key.text) ++ "\n"

/-- The list of the keys of one category, or of all. -/
def keysText (category : Option Category) : String :=
  String.join <| (match category with
    | some c => [c]
    | none => Category.all).map keysLine

/-- Executes a command; tells whether all is well. -/
def execute (s : Surroundings) : Command → Action Bool
  | check o => executeCheck s o
  | keys category => do
    Action.write (keysText category)
    return true

/-- Runs a command on an empty output. -/
def run (s : Surroundings) (c : Command) : Except CommandFailure Output :=
  match (execute s c).runFrom "" with
  | (.ok clean, text) => .ok ⟨text, clean⟩
  | (.error failure, _) => .error failure

end Command

end DocLint
