import ModelTables.Command.Generate
import ModelTables.Value.Pretty

/-! # The command line

The program has one command, `generate`, with these options (a value follows its
option as the next argument or after `=`):

* `--schema <path>`, required: the manifest;
* `--config <path>`: a configuration file;
* `--output-dir <dir>`: where modules go, `./generated` by default;
* `--app-label <label>`, `--include <pattern>`, `--exclude <pattern>`:
  repeatable;
* `--app-name <name>` and `--log-level <level>`.

`--version` prints the version.  A run prints its summary as indented JSON on
standard output, or the failure as indented JSON on standard error; logged
messages go to standard error when the configured level admits them.
-/

namespace ModelTables

namespace Cli

/-- The version the program reports. -/
def version : String := "0.1.0"

/-- What the arguments ask for. -/
inductive Request where
  | generate (options : GenerateOptions)
  | version
  /-- Arguments that ask for nothing the program does, with what is wrong. -/
  | usage (problem : String)
  deriving Inhabited

/-- The options that take a value, with their spelling in messages. -/
def valueOptions : List (String × String) :=
  [("--schema", "--schema <path>"), ("--config", "--config <path>"),
   ("--output-dir", "--output-dir <dir>"), ("--app-label", "--app-label <label>"),
   ("--app-name", "--app-name <name>"), ("--include", "--include <pattern>"),
   ("--exclude", "--exclude <pattern>"), ("--log-level", "--log-level <level>")]

/-- Append to an optional list. -/
def appendTo (xs : Option (List String)) (x : String) : Option (List String) :=
  some (xs.getD [] ++ [x])

/-- Set one option. -/
def setOption (o : GenerateOptions) (name value : String) : GenerateOptions :=
  match name with
  | "--schema" => { o with schema := value }
  | "--config" => { o with config := some value }
  | "--output-dir" => { o with outputDir := value }
  | "--app-label" => { o with apps := match o.apps with
    | .listed labels => .listed (labels ++ [value])
    | _ => .listed [value] }
  | "--app-name" => { o with appName := some value }
  | "--include" => { o with included := appendTo o.included value }
  | "--exclude" => { o with excluded := appendTo o.excluded value }
  | "--log-level" => { o with logLevel := some value }
  | _ => o

/-- Read the options of `generate`; `seen` marks that `--schema` was given. -/
def readOptions : List String → GenerateOptions → Bool → Except String (GenerateOptions × Bool)
  | [], o, seen => .ok (o, seen)
  | arg :: rest, o, seen =>
    let (name, inline) := match arg.splitOn "=" with
      | n :: v :: more => (n, some ("=".intercalate (v :: more)))
      | _ => (arg, none)
    match valueOptions.find? (·.1 == name) with
    | some (_, spelled) =>
      match inline with
      | some value => readOptions rest (setOption o name value) (seen || name == "--schema")
      | none =>
        match rest with
        | value :: more => readOptions more (setOption o name value) (seen || name == "--schema")
        | [] => .error ("error: option '" ++ spelled ++ "' argument missing")
    | none =>
      if arg.startsWith "-" then .error ("error: unknown option '" ++ arg ++ "'")
      else .error ("error: too many arguments for 'generate'. Expected 0 arguments but got 1.")

/-- What a list of arguments asks for. -/
def parseArgs : List String → Request
  | ["--version"] | ["-V"] => .version
  | "generate" :: rest =>
    match readOptions rest { schema := "" } false with
    | .ok (o, true) => .generate o
    | .ok (_, false) => .usage "error: required option '--schema <path>' not specified"
    | .error problem => .usage problem
  | _ => .usage "Usage: schema-mirror generate --schema <path> [options]"

/-- The summary a successful run prints. -/
def summaryValue (s : GenerateSummary) : Value :=
  .obj [("status", .string "success"), ("phase", .string "generate"),
    ("models", .array (s.models.map .string)),
    ("skipped", .array (s.skipped.map fun k =>
      .obj [("label", .string k.label), ("reason", .string k.reason)])),
    ("files", .array (s.files.map .string))]

/-- The response a failed run prints; a failure of a kind without a code counts
as a general error. -/
def failureValue (f : Failure) : Value :=
  .obj [("status", .string "error"), ("phase", .string "generate"),
    ("error", .obj ([("code", .string (f.kind.code.getD "GENERAL_ERROR")), ("message", .string f.message)] ++
      (f.details.map fun d => ("details", d)).toList))]

/-- Whether a configured level lets a logged message through. -/
def admits (configured : LogLevel) : Level → Bool
  | .error => true
  | .warn => configured != .error

/-- The line a logged message is printed as. -/
def logLine (e : LogEntry) : String :=
  match e.level with
  | .warn => "[SchemaMirror] WARN: " ++ e.message ++ " "
  | .error => "[SchemaMirror] ERROR: " ++ e.message ++ " "

end Cli

end ModelTables
