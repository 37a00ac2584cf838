import ModelTables.Catalog.Describe
import ModelTables.Glob.Pattern
import ModelTables.Failure
import ModelTables.Naming

/-! # Planning which models get tables

`Schema.plan` is the first pass of generation.  Every model of the schema, in
order:

* outside the requested apps: left out without a trace;
* not admitted by the include and exclude patterns: skipped as `filtered`;
* abstract, a proxy, or without described fields: skipped with its reason;
* otherwise planned.

The planned models then get their class names, all at once, so that relations
can name models that come later.  The class-name table maps labels to class
names; the second pass removes the models it fails to render.
-/

namespace ModelTables

/-- The apps a plan considers, as the apps option gives them: every app, the apps
a list names, or, when the option is a text, every app whose label occurs in that
text (a text's `includes` looks for a substring, so `"shop"` admits `sh` and
`op`). -/
inductive AppSelection where
  | all
  | listed (labels : List String)
  | within (text : String)
  deriving Inhabited

/-- Whether one list of units occurs in another. -/
def unitsOccurIn (needle : List Nat) : List Nat → Bool
  | [] => needle.isEmpty
  | u :: rest => needle.isPrefixOf (u :: rest) || unitsOccurIn needle rest

/-- Whether a selection admits an app. -/
def AppSelection.admits : AppSelection → String → Bool
  | .all, _ => true
  | .listed labels, app => labels.contains app
  | .within text, app => unitsOccurIn (Text.unitsOf app) (Text.unitsOf text)

/-- What the first pass reads from the configuration and the request. -/
structure PlanOptions where
  /-- Include patterns; `none` admits every model. -/
  allowed : Option (List String) := none
  /-- Exclude patterns; a match always rejects. -/
  denied : Option (List String) := none
  /-- The apps to consider. -/
  apps : AppSelection := .all
  suffix : String := "Table"
  kinds : KindMap := []

/-- A planned model: its description, label and class name. -/
structure ModelPlan where
  info : ModelInfo
  label : String
  className : String
  deriving Inhabited

/-- A model left out, with the reason. -/
structure Skipped where
  label : String
  reason : String
  deriving Inhabited

/-- Class names by model label. -/
abbrev ClassNames := List (String × String)

/-- The class name of a label, if its model is planned. -/
def ClassNames.get? (names : ClassNames) (label : String) : Option String :=
  (names.find? (·.1 == label)).map (·.2)

/-- Forget the class names of some labels. -/
def ClassNames.without (names : ClassNames) (labels : List String) : ClassNames :=
  names.filter fun entry => !labels.contains entry.1

/-- The outcome of the first pass. -/
structure Plan where
  models : List ModelPlan
  classNames : ClassNames
  skipped : List Skipped
  deriving Inhabited

namespace Schema

/-- The verdict on one model: left out silently, skipped, or described; an
invalid pattern met while filtering fails. -/
def triage (schema : Schema) (opts : PlanOptions) (model : Model) :
    Except Failure (Option (Sum Skipped ModelInfo)) :=
  let label := model.label
  if opts.apps.admits model.header.appLabel then go label else .ok none
where
  /-- The verdict on a model in a requested app. -/
  go (label : String) : Except Failure (Option (Sum Skipped ModelInfo)) := do
    if !(← (Glob.admits opts.allowed opts.denied label).mapError Failure.invalidPattern) then
      return some (.inl ⟨label, "filtered"⟩)
    let info := schema.describe (some opts.kinds) model
    match info.skipReason? with
    | some reason => return some (.inl ⟨label, reason⟩)
    | none => return some (.inr info)

/-- The first pass: plan, skip and name every model. -/
def plan (schema : Schema) (opts : PlanOptions) : Except Failure Plan := do
  let verdicts ← schema.models.filterMapM (triage schema opts)
  let skipped := verdicts.filterMap fun
    | .inl s => some s
    | .inr _ => none
  let infos := verdicts.filterMap fun
    | .inl _ => none
    | .inr info => some info
  let names := Naming.assignClassNames (infos.map fun i => (i.appLabel, i.objectName)) opts.suffix
  let models := (infos.zip names).map fun (info, className) =>
    { info, label := info.identity, className : ModelPlan }
  return { models, classNames := models.map fun m => (m.label, m.className), skipped }

end Schema

end ModelTables
