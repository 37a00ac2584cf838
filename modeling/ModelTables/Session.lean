import ModelTables.Config.Target
import ModelTables.Plan.Rounds
import ModelTables.Code.Model
import ModelTables.Table.Build
import ModelTables.Registry

/-! # Generation sessions

A session holds one loaded configuration and the target connections built from
it.  Starting one reads the configuration document (an absent one is empty),
merges it over the defaults and builds the targets; each step can fail.

A session plans a schema with its include and exclude patterns, its class-name
suffix and its kind map, and renders the plan:

* `renderText` runs the second pass with the text renderer;
* `generateModules` groups the rendered models by app, apps in the order of
  their first rendered model, and writes one module per app;
* `buildTables` runs the second pass with the table builder and registers every
  built model under its label, in a registry rebuilt from scratch.
-/

namespace ModelTables

/-- A loaded configuration and its targets. -/
structure Session where
  config : Config
  target : TargetConfig
  deriving Inhabited

/-- One generated module. -/
structure GeneratedModule where
  appLabel : String
  fileName : String
  content : String
  /-- The class names of its models, in declaration order. -/
  models : List String
  deriving Inhabited

/-- The generated modules with the models left out on the way. -/
structure GeneratedSource where
  modules : List GeneratedModule
  skipped : List Skipped
  failed : List Skipped
  deriving Inhabited

/-- The built tables with the models left out on the way and the registry of
the built ones. -/
structure BuiltTables where
  models : List BuiltModel
  skipped : List Skipped
  failed : List Skipped
  /-- Model labels paired with class names. -/
  registry : Registry
  deriving Inhabited

namespace Session

/-- The session of a loaded configuration. -/
def ofConfig (config : Config) : Except Failure Session := do
  return { config, target := ← config.target }

/-- Start a session from a configuration document. -/
def start (document : Value) : Run Session := do
  let layer ← Layer.read document
  let config ← Run.lift (Config.load [some layer])
  Run.lift (ofConfig config)

/-- The first-pass options of a session, for the given apps. -/
def planOptions (s : Session) (apps : AppSelection) : PlanOptions :=
  { allowed := s.config.includeModels, denied := s.config.excludeModels, apps
    suffix := s.config.classNameSuffix, kinds := s.config.fieldKindMap }

/-- The first pass over a schema. -/
def plan (s : Session) (schema : Schema) (apps : AppSelection) : Except Failure Plan :=
  schema.plan (s.planOptions apps)

/-- Both passes with the text renderer. -/
def renderText (s : Session) (schema : Schema) (apps : AppSelection) :
    Run (Outcome Code.ModelSource) := do
  (← Run.lift (s.plan schema apps)).render (Code.renderModel schema s.config.appName)

/-- The apps of rendered models, in order of first appearance. -/
def appsInOrder (models : List Code.ModelSource) : List String :=
  models.foldl (fun acc m => if acc.contains m.appLabel then acc else acc ++ [m.appLabel]) []

/-- One module per app of the rendered models. -/
def modulesOf (models : List Code.ModelSource) : List GeneratedModule :=
  (appsInOrder models).map fun app =>
    let mine := models.filter (·.appLabel == app)
    { appLabel := app, fileName := app ++ ".ts", content := Code.renderAppModule mine
      models := mine.map (·.className) }

/-- Render every planned model as module text, one module per app. -/
def generateModules (s : Session) (schema : Schema) (apps : AppSelection) :
    Run GeneratedSource := do
  let plan ← Run.lift (s.plan schema apps)
  let outcome ← plan.render (Code.renderModel schema s.config.appName)
  return { modules := modulesOf (outcome.rendered.map (·.2)), skipped := plan.skipped
           failed := outcome.failed }

/-- Build a table for every planned model and register each under its label. -/
def buildTables (s : Session) (schema : Schema) (apps : AppSelection) :
    Run BuiltTables := do
  let plan ← Run.lift (s.plan schema apps)
  let outcome ← plan.render (buildModel s.config.appName)
  let registry := outcome.rendered.foldl (fun r (m, built) => r.register m.label built.className m.label)
    ({} : Registry)
  return { models := outcome.rendered.map (·.2), skipped := plan.skipped, failed := outcome.failed
           registry }

end Session

end ModelTables
