import ModelTables.Plan.Basic
import ModelTables.Log

/-! # Rendering in rounds

The second pass renders every planned model against the class-name table.  A
model whose renderer fails (with the failure's text as the reason) or renders
nothing (no data field converts, reason `no convertible fields`) is dropped with a
warning and loses its class name; then the whole round is repeated over the models
that rendered, so that relations pointing at a dropped model are dropped wherever
they are.  Every repeated round removes at least one model, so the rounds end.

A renderer runs in `Run`, whose log it can read and extend: that is all the state a
renderer keeps from one call to the next.
-/

namespace ModelTables

/-- The outcome of the second pass. -/
structure Outcome (α : Type) where
  /-- The rendered models of the last round, in plan order. -/
  rendered : List (ModelPlan × α)
  failed : List Skipped
  /-- The class names of the models that rendered. -/
  classNames : ClassNames
  rounds : Nat

/-- A renderer: one model against the current class-name table, `none` when the
model has nothing to render. -/
abbrev Renderer (α : Type) := ClassNames → ModelPlan → Run (Option α)

/-- Render one model: its result, or the reason it is dropped, with a warning. -/
def renderOne {α : Type} (render : Renderer α) (names : ClassNames) (model : ModelPlan) :
    Run (ModelPlan × Except String α) := do
  match ← observing (render names model) with
  | .error failure =>
    Run.warn ("Failed to materialize " ++ model.label ++ ": " ++ failure.message)
    return (model, .error failure.message)
  | .ok none =>
    Run.warn ("Model " ++ model.label ++ " has no convertible fields; skipping.")
    return (model, .error "no convertible fields")
  | .ok (some x) => return (model, .ok x)

/-- The models of a round that rendered, with their results, in call order. -/
def successes {α : Type} (results : List (ModelPlan × Except String α)) : List (ModelPlan × α) :=
  results.filterMap fun
    | (model, .ok x) => some (model, x)
    | (_, .error _) => none

/-- The models of a round that were dropped, with their reasons, in call order. -/
def failures {α : Type} (results : List (ModelPlan × Except String α)) :
    List (ModelPlan × String) :=
  results.filterMap fun
    | (_, .ok _) => none
    | (model, .error reason) => some (model, reason)

/-- The state of the second pass between rounds. -/
structure Pass where
  /-- The models rendered in the next round, in plan order. -/
  active : List ModelPlan
  names : ClassNames
  failed : List Skipped
  rounds : Nat

namespace Pass

/-- The state before the first round. -/
def start (plan : Plan) : Pass :=
  { active := plan.models, names := plan.classNames, failed := [], rounds := 0 }

/-- The state after a round that dropped some models: only the models that rendered
stay, and the dropped ones lose their class names. -/
def next {α : Type} (p : Pass) (results : List (ModelPlan × Except String α)) : Pass :=
  { active := (successes results).map (·.1)
    names := p.names.without ((failures results).map (·.1.info.identity))
    failed := p.failed ++ (failures results).map fun (model, reason) => { label := model.label, reason }
    rounds := p.rounds + 1 }

/-- The outcome of a round that dropped nothing. -/
def finish {α : Type} (p : Pass) (results : List (ModelPlan × Except String α)) : Outcome α :=
  { rendered := successes results, failed := p.failed, classNames := p.names, rounds := p.rounds + 1 }

end Pass

/-- Repeat rounds from a pass state; `fuel` bounds the rounds. -/
def renderRounds {α : Type} (render : Renderer α) : Nat → Pass → Run (Outcome α)
  | 0, p => pure { rendered := [], failed := p.failed, classNames := p.names, rounds := p.rounds }
  | fuel + 1, p => do
    let results ← p.active.mapM (renderOne render p.names)
    if (failures results).isEmpty then pure (p.finish results)
    else renderRounds render fuel (p.next results)

/-- The second pass over a plan. -/
def Plan.render {α : Type} (plan : Plan) (render : Renderer α) : Run (Outcome α) :=
  renderRounds render (plan.models.length + 1) (Pass.start plan)

end ModelTables
