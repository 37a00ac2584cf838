import ModelTables.Config.Read
import ModelTables.Value.Yaml
import ModelTables.WorkDir

/-! # Configuration files and command options

A configuration file is read by the end of its path, compared with case: a path
ending in `.yaml` or `.yml` is YAML and one ending in `.json` is JSON.  Any other
ending, a missing file and a text that does not parse each fail with the path;
the document read is then checked like any configuration document.

The options of the `generate` command form a layer over the file's: the app
name, the include and exclude patterns and the log level, each when given (a log
level that is not a level counts as not given).
-/

namespace ModelTables

namespace Layer

/-- Read the configuration file at a path of a work directory. -/
def load (dir : WorkDir) (path : String) : Run Layer := do
  let isYaml := path.endsWith ".yaml" || path.endsWith ".yml"
  let isJson := path.endsWith ".json"
  if !isYaml && !isJson then throw (.unsupportedConfigFormat path)
  let some content := dir.read? path
    | throw (.unreadableConfig path)
  let parsed := if isYaml then Value.parseYaml? content else Value.parseJson? content
  match parsed with
  | .ok data => read data
  | .error reason => throw (.unparsableConfig path reason)

/-- The layer of command options. -/
def ofOptions (appName : Option String) (included excluded : Option (List String))
    (logLevel : Option String) : Layer :=
  (appName.map Setting.appName).toList ++
    (included.map fun p => Setting.includeModels (some p)).toList ++
    (excluded.map fun p => Setting.excludeModels (some p)).toList ++
    ((logLevel.bind LogLevel.ofName?).map Setting.logLevel).toList

end Layer

end ModelTables
