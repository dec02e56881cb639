import SchemaBinding.Code.Generated
import SchemaBinding.Command.Arguments
import SchemaBinding.Command.Files
import SchemaBinding.Config.Settings

/-!
# `SchemaBinding.Command`: a run of the program

A run reads the configuration and the schema, generates code, and writes it to a file or prints it. The
findings are printed as messages. A run that fails prints one line, which gives the cause and the causes
behind it.

The steps of a run are actions on a world, which is the files and what has been printed so far. What an action has
done to the world before it fails is not taken back.
-/

set_option autoImplicit false

namespace SchemaBinding

/-- What a run leaves behind: its exit code, what it has printed, its messages, and the files. -/
structure Outcome where
  exitCode : Nat
  printed : String := ""
  messages : String := ""
  files : Files
  deriving Repr, DecidableEq, Inhabited

/-- Why an address gives no text: nothing comes from it, or what comes cannot be read. Both have causes behind
them. -/
inductive FetchError where
  | unreachable (causes : List String)
  | unreadable (causes : List String)
  deriving Repr, DecidableEq, Inhabited

/-- Why a run fails. -/
inductive RunError where
  | unreadableConfig (path : String) (cause : FileError)
  | config (path : String) (cause : ConfigError)
  | unreadable (path : String) (cause : FileError)
  | unfetched (address : String) (cause : FetchError)
  | schema (path : String) (cause : SchemaError)
  | unwritable (path : String) (cause : FileError)
  /-- The structs of a schema cannot be written. -/
  | code (cause : CodeError)
  deriving Repr, DecidableEq, Inhabited

/-- The causes behind an error in markup: the error, its wording without its class, and what is wrong with
a character reference. -/
def Markup.Error.causes (e : Markup.Error) : List String :=
  [e.message, e.detail] ++
    match e with
    | .escape (.character (.number cause)) => [cause.message, cause.message]
    | .escape (.character cause) => [cause.message]
    | _ => []

/-- The causes behind an error of a schema. -/
def SchemaError.causes : SchemaError → List String
  | markup cause => cause.causes
  | attributes cause => [cause.message]
  | _ => []

/-- What has failed at an address, and the causes. -/
def FetchError.chain (address : String) : FetchError → List String
  | unreachable causes => ("cannot fetch " ++ address) :: causes
  | unreadable causes => ("cannot read response body from " ++ address) :: causes

/-- What has failed, and the causes, the nearest first. -/
def RunError.chain : RunError → List String
  | unreadableConfig path cause =>
    ["cannot load configuration from " ++ path, "cannot read config file " ++ path, cause.message]
  | config path cause => ["cannot load configuration from " ++ path, cause.message]
  | unreadable path cause => ["cannot read " ++ path, cause.message]
  | unfetched address cause => cause.chain address
  | schema path cause => ["cannot parse schema " ++ path, cause.message] ++ cause.causes
  | unwritable path cause => ["cannot write " ++ path, cause.message]
  | code cause => [cause.message]

def RunError.message (e : RunError) : String := ": ".intercalate e.chain

/-- The exit code of a run that fails. A schema that no code can be written for counts as a crash. -/
def RunError.exitCode : RunError → Nat
  | code _ => 101
  | _ => 1

/-- What a run acts on: the files, what has been printed, and the messages so far. -/
structure World where
  files : Files
  printed : String := ""
  messages : String := ""
  deriving Repr, DecidableEq, Inhabited

/-- A step of a run. -/
abbrev Action (α : Type) : Type := ExceptT RunError (StateM World) α

namespace Action

variable {α : Type}

/-- What an action ends with in a world, and the world that it leaves. -/
def outcome (act : Action α) (w : World) : Except RunError α × World := act.run.run w

/-- The result, or what its error means for the run. -/
def attempt {ε : Type} (result : Except ε α) (failure : ε → RunError) : Action α :=
  ExceptT.mk (pure (result.mapError failure))

/-- The text of a file. -/
def readFile (path : String) (failure : FileError → RunError) : Action String := do
  attempt ((← get).files.read path) failure

/-- Writes a file in one piece. An old one stays unless it is to be overwritten. -/
def writeFile (path text : String) (overwrite : Bool) : Action Unit := do
  let written ← attempt ((← get).files.write path text overwrite) (.unwritable path)
  modify fun w => { w with files := written }

/-- Prints a text. -/
def print (text : String) : Action Unit := modify fun w => { w with printed := w.printed ++ text }

/-- Prints a line as a message. -/
def warn (line : String) : Action Unit := modify fun w => { w with messages := w.messages ++ line ++ "\n" }

end Action

namespace Command

open SchemaBinding.Action (attempt readFile writeFile print warn)

/-- The name that stands for the standard input. -/
def standardInput : String := "-"

/-- Whether the name of a schema is an address. -/
def isAddress (name : String) : Bool :=
  "http://".toList.isPrefixOf name.toList || "https://".toList.isPrefixOf name.toList

/-- What addresses give. -/
abbrev Web : Type := String → Except FetchError String

/-- Without a network no address gives a text. -/
def offline : Web := fun _ => .error (.unreachable [])

/-- The configuration in a file. -/
def loadConfig (path : String) : Action Config := do
  let text ← readFile path (.unreadableConfig path)
  attempt (Config.ofString text) (.config path)

/-- The configuration of a run. -/
def readConfig (a : Arguments) : Action Config := do
  let config ← a.config.elim (pure {}) loadConfig
  return if a.capitalizedAccessors then { config with accessorStyle := .capitalized } else config

/-- The text of the schema with a name. `input` is the text on the standard input. -/
def readInput (name input : String) (web : Web) : Action String :=
  if name = standardInput then pure input
  else if isAddress name then attempt (web name) (.unfetched name)
  else readFile name (.unreadable name)

/-- What went wrong with a schema, given its name. -/
def generationError (path : String) : GenerationError → RunError
  | .schema cause => .schema path cause
  | .code cause => .code cause

/-- The code for the schema that the arguments name. -/
def prepare (a : Arguments) (input : String) (web : Web) : Action GeneratedCode := do
  let config ← readConfig a
  let name := a.input.getD standardInput
  let source ← readInput name input web
  attempt (generateCode config (a.target.getD .usual) a.namespacePrefix source) (generationError name)

/-- Puts the code where the arguments want it. -/
def deliver (a : Arguments) (code : String) : Action Unit :=
  match a.output with
  | none => print code
  | some output => writeFile output code a.force

/-- The run that the arguments ask for. -/
def generateFile (a : Arguments) (input : String) (web : Web) : Action Unit := do
  let generated ← prepare a input web
  deliver a generated.code
  generated.findings.forM fun finding => warn finding.line

/-- How the program is used. -/
def usage : String := "Usage: " ++ programName ++ " [OPTIONS] <INPUT>"

/-- The text that explains the arguments. -/
def help : String :=
  "\n".intercalate
    ["Generates XML binding code from XSD schema files", "", usage, "", "Arguments:",
      "  <INPUT>  The source file, URL, or - for standard input", "", "Options:",
      "  -o, --output <OUTPUT>",
      "          Write the generated code here instead of standard output",
      "  -g, --generator <GENERATOR>",
      "          Target language [default: rust] [possible values: rust, typescript]",
      "      --namespace-prefix <NAMESPACE_PREFIX>",
      "          Prefix of the XML Schema namespace, overriding the one declared",
      "      --config <CONFIG>",
      "          TOML file with name mappings, accessor style and user methods",
      "      --use-old-getter-setter",
      "          Name accessors getVar()/setVar() instead of get_var()/set_var()",
      "  -f, --force", "          Overwrite the output file if it exists",
      "  -h, --help", "          Print help",
      "  -V, --version", "          Print version", ""]

/-- The outcome when there is no run. -/
def withoutRun (files : Files) : NoRun → Outcome
  | .misuse => { exitCode := 2, messages := usage ++ "\n", files := files }
  | .version => { exitCode := 0, printed := programTitle ++ "\n", files := files }
  | .help => { exitCode := 0, printed := help, files := files }

/-- The outcome of a run that has ended. -/
def ended : Except RunError Unit × World → Outcome
  | (.ok _, w) => { exitCode := 0, printed := w.printed, messages := w.messages, files := w.files }
  | (.error e, w) =>
    { exitCode := e.exitCode, printed := w.printed, messages := w.messages ++ "error: " ++ e.message ++ "\n",
      files := w.files }

/-- A run of the program. -/
def run (args : List String) (files : Files) (input : String) (web : Web := offline) : Outcome :=
  match Arguments.ofList args with
  | .error reason => withoutRun files reason
  | .ok a => ended ((generateFile a input web).outcome { files })

end Command

end SchemaBinding
