import ModelTables.Session
import ModelTables.Manifest.Load
import ModelTables.Config.File
import ModelTables.Schema.Build

/-! # The generate command

`generate` reads a configuration file (when one is named) and lays the command
options over it, loads the manifest, plans and renders every eligible model, and
writes one module per app into the output directory.  The configuration comes
first, so a bad configuration fails before the manifest is read; the targets are
built after the manifest.

Writing needs the output directory: it fails when a file stands where the
directory or one of the directories above it would be, or where a module would
be written.  The summary lists the class names of the written models, the models
left out (planning skips, then rendering failures) and the written files.
-/

namespace ModelTables

/-- The options of the generate command. -/
structure GenerateOptions where
  /-- The manifest's path. -/
  schema : String
  /-- The configuration file's path; none or empty for no file. -/
  config : Option String := none
  outputDir : String := "./generated"
  apps : AppSelection := .all
  appName : Option String := none
  included : Option (List String) := none
  excluded : Option (List String) := none
  logLevel : Option String := none
  deriving Inhabited

/-- What a generate run did. -/
structure GenerateSummary where
  /-- The class names of the written models, module by module. -/
  models : List String
  skipped : List Skipped
  /-- The written files, as paths under the work directory's root. -/
  files : List String
  deriving Inhabited

namespace GenerateOptions

/-- The layer of the options that override the configuration. -/
def layer (o : GenerateOptions) : Layer := Layer.ofOptions o.appName o.included o.excluded o.logLevel

/-- Lay the options over a configuration file's layer. -/
def merge (o : GenerateOptions) (file : Option Layer) : Except Failure Config :=
  Config.load [file, some o.layer]

end GenerateOptions

/-- The full path of a path under a root. -/
def underRoot (root : String) (segments : List String) : String :=
  "/".intercalate (root :: segments)

/-- Write the modules into the output directory, failing as a whole when a file
is in the way.  A module's path is its file name joined to the directory as path
texts are joined, so `/a.ts`, `./a.ts` and `x/../a.ts` all name `a.ts` there; the
directory that path lies in must exist: the output directory, a directory above
it, or a directory already in the work directory. -/
def writeModules (root : String) (dir : WorkDir) (out : List String)
    (modules : List GeneratedModule) : Except Failure (WorkDir × List String) := do
  let failure : Failure := .writeFailed (underRoot root out)
  if !dir.canMakeDirectory out then throw failure
  modules.foldlM (fun (acc : WorkDir × List String) m => do
    let path := WorkDir.segments (WorkDir.pathOf out ++ "/" ++ m.fileName)
    let parent := path.dropLast
    let parentExists := parent.isPrefixOf out || acc.1.isDirectory parent
    if path.isEmpty || !parentExists || acc.1.isDirectory path then throw failure
    pure (acc.1.write path m.content, acc.2 ++ [underRoot root path])) (dir, [])

/-- Everything the generate command does before writing: the configuration it
ran with and the modules to write. -/
def prepareGenerate (dir : WorkDir) (o : GenerateOptions) : Run (Config × GeneratedSource) := do
  let file ← match o.config with
    | some path => if path.isEmpty then pure none else some <$> Layer.load dir path
    | none => pure none
  let config ← Run.lift (o.merge file)
  let manifest ← Run.lift (Manifest.load dir o.schema)
  let schema ← Run.lift (Schema.build manifest)
  let session ← Run.lift (Session.ofConfig config)
  return (config, ← session.generateModules schema o.apps)

/-- The summary of written modules. -/
def GeneratedSource.summary (result : GeneratedSource) (files : List String) : GenerateSummary :=
  { models := result.modules.flatMap (·.models), skipped := result.skipped ++ result.failed, files }

/-- Run the generate command in a work directory whose full path is `root`. -/
def runGenerate (root : String) (dir : WorkDir) (o : GenerateOptions) :
    Run (GenerateSummary × WorkDir) := do
  let (_, result) ← prepareGenerate dir o
  let (dir, files) ← Run.lift (writeModules root dir (WorkDir.segments o.outputDir) result.modules)
  return (result.summary files, dir)

end ModelTables
