import ModelTables.Plan.Rounds
import ModelTables.Proofs.Run
import Mathlib.Data.List.Forall2

/-! # The rounds of the second pass

`Plan.render` repeats rounds until one drops nothing.  This file proves what the
loop guarantees for every plan and every renderer:

* `render_settles`: the pass ends after at most one round more than there are
  planned models; the rendered models and the failed ones together are the
  planned models, each once; only the failed models' identities leave the class
  names; and the results are those of the last round's calls, which all saw the
  final class names.
* `render_reorder`: a renderer whose result depends only on the class names and
  the model gives, for a reordered plan, the same results, failures, class names
  and rounds, in the new order.
* `renderRounds_lockstep`: two renderers that log alike and render the same
  models run the whole pass alike.

The pieces: `renderOne_run` says what one call gives; `round_run` runs a round;
`Pass.Invariant` is what holds before every round, kept by `Pass.invariant_next`.
-/

namespace ModelTables

variable {α β : Type}

/-! ## One call

A call either renders the model or drops it; it never fails, since a failure of
the renderer is caught. -/

/-- What the pass makes of a renderer's answer: the result, or the reason the model
is dropped. -/
def verdict : Except Failure (Option α) → Except String α
  | .error failure => .error failure.message
  | .ok none => .error "no convertible fields"
  | .ok (some x) => .ok x

/-- The warnings the pass logs for a renderer's answer on `model`. -/
def verdictWarnings (model : ModelPlan) : Except Failure (Option α) → List LogEntry
  | .error failure => [⟨.warn, "Failed to materialize " ++ model.label ++ ": " ++ failure.message⟩]
  | .ok none => [⟨.warn, "Model " ++ model.label ++ " has no convertible fields; skipping."⟩]
  | .ok (some _) => []

theorem renderOne_run {render : Renderer α} {names : ClassNames} {model : ModelPlan}
    {log after : List LogEntry} {answer : Except Failure (Option α)}
    (call : (render names model).run.run log = (answer, after)) :
    (renderOne render names model).run.run log =
      (.ok (model, verdict answer), after ++ verdictWarnings model answer) := by
  unfold renderOne
  rw [Run.run_bind_of_ok (by rw [Run.run_observing, call])]
  rcases answer with failure | _ | x
  · rw [Run.run_bind_of_ok (Run.run_warn _ after)]
    rfl
  · rw [Run.run_bind_of_ok (Run.run_warn _ after)]
    rfl
  · simp only [verdict, verdictWarnings, List.append_nil]
    rfl

/-! ## A round -/

/-- A round renders every active model once, in order, and never fails. -/
theorem round_run (render : Renderer α) (names : ClassNames) (active : List ModelPlan)
    (log : List LogEntry) :
    ∃ results after, (active.mapM (renderOne render names)).run.run log = (.ok results, after) ∧
      results.map (·.1) = active := by
  induction active generalizing log with
  | nil => exact ⟨[], log, rfl, rfl⟩
  | cons model rest ih =>
    obtain ⟨answer, middle, call⟩ : ∃ answer middle,
        (render names model).run.run log = (answer, middle) := ⟨_, _, rfl⟩
    obtain ⟨results, after, restRun, restModels⟩ := ih (middle ++ verdictWarnings model answer)
    refine ⟨(model, verdict answer) :: results, after, ?_, by simp [restModels]⟩
    rw [List.mapM_cons, Run.run_bind_of_ok (renderOne_run call), Run.run_bind_of_ok restRun]
    rfl

/-! ## Successes and failures of a round -/

section
variable (model : ModelPlan) (x : α) (reason : String) (rest : List (ModelPlan × Except String α))

@[simp] theorem successes_cons_ok : successes ((model, .ok x) :: rest) = (model, x) :: successes rest := rfl
@[simp] theorem successes_cons_error : successes ((model, .error reason) :: rest) = successes rest := rfl
@[simp] theorem failures_cons_ok : failures ((model, .ok x) :: rest) = failures rest := rfl
@[simp] theorem failures_cons_error :
    failures ((model, .error reason) :: rest) = (model, reason) :: failures rest := rfl

end

theorem successes_sublist (results : List (ModelPlan × Except String α)) :
    ((successes results).map (·.1)).Sublist (results.map (·.1)) := by
  induction results with
  | nil => exact .slnil
  | cons result rest ih =>
    rcases result with ⟨model, _ | x⟩
    · exact ih.cons model
    · exact ih.cons_cons model

theorem successes_failures_perm (results : List (ModelPlan × Except String α)) :
    ((successes results).map (·.1) ++ (failures results).map (·.1)).Perm (results.map (·.1)) := by
  induction results with
  | nil => exact .nil
  | cons result rest ih =>
    rcases result with ⟨model, reason | x⟩
    · have moved : ((successes rest).map (·.1) ++ model :: (failures rest).map (·.1)).Perm
          (model :: rest.map (·.1)) := List.perm_middle.trans (ih.cons model)
      simpa using moved
    · simpa using ih.cons model

theorem successes_length_lt (results : List (ModelPlan × Except String α))
    (dropped : failures results ≠ []) : (successes results).length < results.length := by
  have lengths := (successes_failures_perm results).length_eq
  have someDropped : 0 < (failures results).length := List.length_pos_iff.mpr dropped
  simp only [List.length_append, List.length_map] at lengths
  omega

theorem eq_successes_of_failures_eq_nil (results : List (ModelPlan × Except String α))
    (none : failures results = []) : results = (successes results).map fun r => (r.1, .ok r.2) := by
  induction results with
  | nil => rfl
  | cons result rest ih =>
    rcases result with ⟨model, reason | x⟩
    · simp [failures] at none
    · have restNone : failures rest = [] := by simpa [failures] using none
      simpa [successes] using ih restNone

theorem successes_perm {results results' : List (ModelPlan × Except String α)}
    (reordered : results.Perm results') : (successes results).Perm (successes results') :=
  reordered.filterMap _

theorem failures_perm {results results' : List (ModelPlan × Except String α)}
    (reordered : results.Perm results') : (failures results).Perm (failures results') :=
  reordered.filterMap _

/-! ## Class names without some identities -/

namespace ClassNames

@[simp] theorem without_nil (names : ClassNames) : names.without [] = names := by
  simp [without]

theorem without_append (names : ClassNames) (first second : List String) :
    names.without (first ++ second) = (names.without first).without second := by
  simp only [without, List.filter_filter, List.contains_append, Bool.not_or]
  congr 1
  funext entry
  exact Bool.and_comm _ _

theorem without_perm (names : ClassNames) {first second : List String} (same : first.Perm second) :
    names.without first = names.without second := by
  simp only [without, same.contains_eq]

end ClassNames

/-! ## What holds before every round -/

/-- What holds before every round of a pass over `plan`: the active models are
planned models in plan order; the failed entries name the other planned models,
each once, and exactly their identities have left the class names; and every
round so far dropped a model. -/
structure Pass.Invariant (plan : Plan) (p : Pass) : Prop where
  ordered : p.active.Sublist plan.models
  accounted : ∃ lost : List ModelPlan, (p.active ++ lost).Perm plan.models ∧
    p.failed.map (·.label) = lost.map (·.label) ∧
    p.names = plan.classNames.without (lost.map (·.info.identity))
  bounded : p.active.length + p.rounds ≤ plan.models.length

theorem Pass.invariant_start (plan : Plan) : (Pass.start plan).Invariant plan where
  ordered := List.Sublist.refl _
  accounted := ⟨[], by simp [Pass.start]⟩
  bounded := by simp [Pass.start]

theorem Pass.invariant_next {plan : Plan} {p : Pass} {results : List (ModelPlan × Except String α)}
    (invariant : p.Invariant plan) (called : results.map (·.1) = p.active)
    (dropped : failures results ≠ []) : (p.next results).Invariant plan := by
  obtain ⟨ordered, ⟨lost, complete, labelled, named⟩, bounded⟩ := invariant
  have kept := successes_sublist results
  have split := successes_failures_perm results
  rw [called] at kept split
  have shorter := successes_length_lt results dropped
  have sameLength : results.length = p.active.length := by rw [← called, List.length_map]
  refine ⟨kept.trans ordered, ⟨lost ++ (failures results).map (·.1), ?_, ?_, ?_⟩, ?_⟩
  · -- the models dropped now join the ones lost before
    have regrouped : ((successes results).map (·.1) ++ (lost ++ (failures results).map (·.1))).Perm
        ((successes results).map (·.1) ++ (failures results).map (·.1) ++ lost) := by
      rw [List.append_assoc]
      exact List.perm_append_comm.append_left _
    exact regrouped.trans ((split.append_right lost).trans complete)
  · simp [Pass.next, labelled]
  · simp [Pass.next, named, ClassNames.without_append, Function.comp_def]
  · simp only [Pass.next, List.length_map]
    omega

/-! ## The last round -/

/-- What a finished pass over `plan` with `render` guarantees. -/
structure Outcome.Settles (plan : Plan) (render : Renderer α) (out : Outcome α) : Prop where
  /-- At least one round ran, and at most one more than there are planned models. -/
  rounds_pos : 0 < out.rounds
  rounds_le : out.rounds ≤ plan.models.length + 1
  /-- The rendered models are planned models, in plan order. -/
  ordered : (out.rendered.map (·.1)).Sublist plan.models
  /-- The planned models are the rendered ones and those the failed entries name, each
  once; exactly the latter's identities have left the class names. -/
  accounted : ∃ lost : List ModelPlan, (out.rendered.map (·.1) ++ lost).Perm plan.models ∧
    out.failed.map (·.label) = lost.map (·.label) ∧
    out.classNames = plan.classNames.without (lost.map (·.info.identity))
  /-- The results are what the last round's calls gave, all made with the final class
  names. -/
  lastRound : ∃ before after,
    ((out.rendered.map (·.1)).mapM (renderOne render out.classNames)).run.run before =
      (.ok (out.rendered.map fun r => (r.1, .ok r.2)), after)

theorem verdict_eq_ok {answer : Except Failure (Option α)} {x : α} (rendered : verdict answer = .ok x) :
    answer = .ok (some x) := by
  rcases answer with failure | _ | y
  · cases rendered
  · cases rendered
  · cases rendered
    rfl

/-- The results of a round that rendered every model are the answers of calls made
with the round's class names. -/
theorem rendered_of_round {render : Renderer α} {names : ClassNames} :
    ∀ (rendered : List (ModelPlan × α)) (log after : List LogEntry),
      ((rendered.map (·.1)).mapM (renderOne render names)).run.run log =
        (.ok (rendered.map fun r => (r.1, .ok r.2)), after) →
      ∀ r ∈ rendered, ∃ log after, (render names r.1).run.run log = (.ok (some r.2), after)
  | [], _, _, _ => by simp
  | r :: rest, log, after, round => by
    rcases call : (render names r.1).run.run log with ⟨answer, middle⟩
    rw [List.map_cons, List.mapM_cons, Run.run_bind_of_ok (renderOne_run call)] at round
    obtain ⟨results, final, restRun, round⟩ := Run.run_bind_eq_ok round
    rw [Run.run_pure] at round
    obtain ⟨sameResults, -⟩ := Prod.mk.inj round
    obtain ⟨first, rfl⟩ := List.cons.inj (Except.ok.inj sameResults)
    intro s member
    rcases List.mem_cons.mp member with rfl | later
    · exact ⟨log, middle, call.trans (by rw [verdict_eq_ok (Prod.mk.inj first).2])⟩
    · exact rendered_of_round rest _ final restRun s later

/-- Every model a finished pass rendered is the answer of a call made with its final
class names. -/
theorem Outcome.Settles.rendered_call {plan : Plan} {render : Renderer α} {out : Outcome α}
    (settles : out.Settles plan render) :
    ∀ r ∈ out.rendered, ∃ log after, (render out.classNames r.1).run.run log = (.ok (some r.2), after) := by
  obtain ⟨before, after, round⟩ := settles.lastRound
  exact rendered_of_round out.rendered before after round

theorem Pass.settles_finish {plan : Plan} {render : Renderer α} {p : Pass}
    {results : List (ModelPlan × Except String α)} {log after : List LogEntry}
    (invariant : p.Invariant plan)
    (round : (p.active.mapM (renderOne render p.names)).run.run log = (.ok results, after))
    (called : results.map (·.1) = p.active) (none : failures results = []) :
    (p.finish results).Settles plan render := by
  obtain ⟨ordered, ⟨lost, complete, labelled, named⟩, bounded⟩ := invariant
  have allRendered := eq_successes_of_failures_eq_nil results none
  have survivors : (successes results).map (·.1) = p.active := by
    rw [← called]
    conv => rhs; rw [allRendered]
    simp
  refine ⟨Nat.succ_pos _, by simp only [Pass.finish]; omega, ?_, ⟨lost, ?_, labelled, named⟩, ?_⟩
  · simpa only [Pass.finish, survivors] using ordered
  · simpa only [Pass.finish, survivors] using complete
  · refine ⟨log, after, ?_⟩
    simp only [Pass.finish, survivors]
    rw [← allRendered]
    exact round

/-! ## The whole pass -/

theorem renderRounds_settles (render : Renderer α) (plan : Plan) :
    ∀ (fuel : Nat) (p : Pass) (log : List LogEntry), p.Invariant plan → p.active.length < fuel →
      ∃ out after, (renderRounds render fuel p).run.run log = (.ok out, after) ∧ out.Settles plan render
  | 0, _, _, _, short => absurd short (Nat.not_lt_zero _)
  | fuel + 1, p, log, invariant, short => by
    obtain ⟨results, middle, round, called⟩ := round_run render p.names p.active log
    rw [renderRounds, Run.run_bind_of_ok round]
    by_cases none : failures results = []
    · refine ⟨p.finish results, middle, ?_, Pass.settles_finish invariant round called none⟩
      rw [if_pos (by simp [none])]
      rfl
    · have shorter := successes_length_lt results none
      have sameLength : results.length = p.active.length := by rw [← called, List.length_map]
      have fits : (p.next results).active.length < fuel := by
        simp only [Pass.next, List.length_map]
        omega
      obtain ⟨out, after, rest, settles⟩ :=
        renderRounds_settles render plan fuel (p.next results) middle (Pass.invariant_next invariant called none) fits
      exact ⟨out, after, by simpa [none] using rest, settles⟩

/-- Rendering a plan ends, within one round more than there are planned models, and
never fails: every planned model is rendered or failed, exactly once; the rendered
ones keep plan order; exactly the failed models' identities leave the class names;
and every result comes from the last round, whose calls all saw the final class
names. -/
theorem render_settles (plan : Plan) (render : Renderer α) (log : List LogEntry) :
    ∃ out after, (plan.render render).run.run log = (.ok out, after) ∧ out.Settles plan render :=
  renderRounds_settles render plan _ _ log (Pass.invariant_start plan) (by simp [Pass.start])

/-! ## Renderers that keep no state

A renderer may read the log it runs after.  One that does not gives each model
the same answer in every round that has the same class names, which is what makes
the order of the plan irrelevant. -/

/-- The answer of a renderer on a model, from an empty log. -/
def Renderer.answer (render : Renderer α) (names : ClassNames) (model : ModelPlan) :
    Except Failure (Option α) :=
  ((render names model).run.run []).1

/-- A renderer whose answer on a model depends only on the class names and the
model, not on the log it runs after. -/
def Renderer.Stateless (render : Renderer α) : Prop :=
  ∀ names model log, ((render names model).run.run log).1 = render.answer names model

theorem round_run_stateless {render : Renderer α} (stateless : render.Stateless)
    (names : ClassNames) (active : List ModelPlan) (log : List LogEntry) :
    ∃ after, (active.mapM (renderOne render names)).run.run log =
      (.ok (active.map fun model => (model, verdict (render.answer names model))), after) := by
  induction active generalizing log with
  | nil => exact ⟨log, rfl⟩
  | cons model rest ih =>
    have call : (render names model).run.run log =
        (render.answer names model, ((render names model).run.run log).2) := by
      rw [← stateless names model log]
      rfl
    obtain ⟨after, restRun⟩ := ih (((render names model).run.run log).2 ++
      verdictWarnings model (render.answer names model))
    refine ⟨after, ?_⟩
    rw [List.mapM_cons, Run.run_bind_of_ok (renderOne_run call), Run.run_bind_of_ok restRun]
    rfl

/-- Two pass states that hold the same models and failures, in other orders. -/
structure Pass.Reordered (p q : Pass) : Prop where
  active : p.active.Perm q.active
  names : p.names = q.names
  failed : p.failed.Perm q.failed
  rounds : p.rounds = q.rounds

theorem renderRounds_reordered {render : Renderer α} (stateless : render.Stateless) :
    ∀ (fuel : Nat) (p q : Pass) (log log' : List LogEntry), p.Reordered q →
      ∃ out out' after after', (renderRounds render fuel p).run.run log = (.ok out, after) ∧
        (renderRounds render fuel q).run.run log' = (.ok out', after') ∧
        out.rendered.Perm out'.rendered ∧ out.failed.Perm out'.failed ∧
        out.classNames = out'.classNames ∧ out.rounds = out'.rounds
  | 0, p, q, log, log', reordered =>
    ⟨_, _, log, log', rfl, rfl, .nil, reordered.failed, reordered.names, reordered.rounds⟩
  | fuel + 1, p, q, log, log', reordered => by
    let judge : ModelPlan → ModelPlan × Except String α :=
      fun model => (model, verdict (render.answer p.names model))
    obtain ⟨middle, round⟩ := round_run_stateless stateless p.names p.active log
    obtain ⟨middle', round'⟩ := round_run_stateless stateless q.names q.active log'
    -- both rounds judge every model alike, so their results are reorderings
    have results : (p.active.map judge).Perm (q.active.map judge) := reordered.active.map judge
    have dropped := failures_perm results
    have kept := successes_perm results
    rw [renderRounds, renderRounds, Run.run_bind_of_ok round, Run.run_bind_of_ok round',
      ← reordered.names]
    by_cases none : (failures (p.active.map judge)).isEmpty
    · rw [if_pos none, if_pos (dropped.isEmpty_eq ▸ none)]
      exact ⟨_, _, middle, middle', rfl, rfl, kept, reordered.failed, reordered.names,
        congrArg (· + 1) reordered.rounds⟩
    · rw [if_neg none, if_neg (dropped.isEmpty_eq ▸ none)]
      have next : (p.next (p.active.map judge)).Reordered (q.next (q.active.map judge)) := by
        refine ⟨kept.map _, ?_, reordered.failed.append (dropped.map _), congrArg (· + 1) reordered.rounds⟩
        simp only [Pass.next, reordered.names]
        exact ClassNames.without_perm _ (dropped.map _)
      exact renderRounds_reordered stateless fuel _ _ middle middle' next

/-- Rendering a reordered plan with a renderer whose answers depend only on the
class names and the model gives the same results for the same models, the same
failures, the same class names and the same number of rounds; the rendered models
follow the new order. -/
theorem render_reorder (plan : Plan) (models : List ModelPlan) (reordered : models.Perm plan.models)
    (render : Renderer α) (stateless : render.Stateless) (log log' : List LogEntry) :
    ∃ out out' after after', (plan.render render).run.run log = (.ok out, after) ∧
      ({ plan with models }.render render).run.run log' = (.ok out', after') ∧
      out'.rendered.Perm out.rendered ∧ out'.failed.Perm out.failed ∧
      out'.classNames = out.classNames ∧ out'.rounds = out.rounds ∧
      (out'.rendered.map (·.1)).Sublist models := by
  have start : (Pass.start { plan with models }).Reordered (Pass.start plan) :=
    ⟨reordered, rfl, .nil, rfl⟩
  obtain ⟨out', out, after', after, run', run, rendered, failed, named, rounds⟩ :=
    renderRounds_reordered stateless (plan.models.length + 1) _ _ log' log start
  obtain ⟨settled, afterSettled, runSettled, settles⟩ := render_settles { plan with models } render log'
  have sameFuel : models.length = plan.models.length := reordered.length_eq
  simp only [Plan.render, sameFuel] at runSettled
  rw [run'] at runSettled
  cases runSettled
  exact ⟨out, out', after, after', run, by simpa [Plan.render, sameFuel] using run', rendered, failed,
    named, rounds, settles.ordered⟩

/-- Swapping two models, one of which the renderer drops. -/
theorem render_reorder_swap :
    let first : ModelPlan := { (default : ModelPlan) with label := "a.A" }
    let second : ModelPlan := { (default : ModelPlan) with label := "a.B" }
    let plan : Plan :=
      { models := [first, second], classNames := [("a.A", "ATable"), ("a.B", "BTable")], skipped := [] }
    let render : Renderer String :=
      fun _ model => pure (if model.label = "a.A" then none else some model.className)
    [second, first].Perm plan.models ∧ render.Stateless ∧
      ∃ out out' after after', (plan.render render).run.run [] = (.ok out, after) ∧
        ({ plan with models := [second, first] }.render render).run.run [] = (.ok out', after') ∧
        out'.rendered.Perm out.rendered ∧ out'.failed.Perm out.failed ∧
        out'.classNames = out.classNames ∧ out'.rounds = out.rounds ∧
        (out'.rendered.map (·.1)).Sublist [second, first] := by
  intro first second plan render
  have swapped : [second, first].Perm plan.models := List.Perm.swap first second []
  have stateless : render.Stateless := fun _ _ _ => rfl
  exact ⟨swapped, stateless, render_reorder plan [second, first] swapped render stateless [] []⟩

/-! ## Two renderers in step

Two renderers that log the same and drop the same models run the whole pass
alike: the same rounds, failures, class names and log, with related results. -/

/-- Two answers on one model that drop it for the same reason, or render it to
results related by `R`. -/
inductive Agree (R : α → β → Prop) : Except Failure (Option α) → Except Failure (Option β) → Prop
  | failed {first second : Failure} : first.message = second.message →
      Agree R (.error first) (.error second)
  | empty : Agree R (.ok none) (.ok none)
  | rendered {x : α} {y : β} : R x y → Agree R (.ok (some x)) (.ok (some y))

/-- Two renderers that, on every model that `fits` and from any log, log the same
and give answers that agree. -/
def Renderer.InStep (fits : ModelPlan → Prop) (R : ModelPlan → α → β → Prop) (first : Renderer α)
    (second : Renderer β) : Prop :=
  ∀ names model, fits model → ∀ log, ∃ answer answer' after,
    (first names model).run.run log = (answer, after) ∧
    (second names model).run.run log = (answer', after) ∧ Agree (R model) answer answer'

/-- Round results on the same model: dropped for the same reason, or rendered to
results related by `R`. -/
def ResultsAgree (R : ModelPlan → α → β → Prop) (result : ModelPlan × Except String α)
    (result' : ModelPlan × Except String β) : Prop :=
  result.1 = result'.1 ∧ match result.2, result'.2 with
    | .error reason, .error reason' => reason = reason'
    | .ok x, .ok y => R result.1 x y
    | _, _ => False

theorem Agree.verdicts {R : ModelPlan → α → β → Prop} {model : ModelPlan}
    {answer : Except Failure (Option α)} {answer' : Except Failure (Option β)}
    (agree : Agree (R model) answer answer') :
    ResultsAgree R (model, verdict answer) (model, verdict answer') ∧
      verdictWarnings model answer = verdictWarnings model answer' := by
  cases agree with
  | failed sameMessage => exact ⟨⟨rfl, sameMessage⟩, by simp [verdictWarnings, sameMessage]⟩
  | empty => exact ⟨⟨rfl, rfl⟩, rfl⟩
  | rendered related => exact ⟨⟨rfl, related⟩, rfl⟩

theorem round_lockstep {fits : ModelPlan → Prop} {R : ModelPlan → α → β → Prop}
    {first : Renderer α} {second : Renderer β} (inStep : Renderer.InStep fits R first second)
    (names : ClassNames) (active : List ModelPlan) (fitting : ∀ model ∈ active, fits model)
    (log : List LogEntry) :
    ∃ results results' after,
      (active.mapM (renderOne first names)).run.run log = (.ok results, after) ∧
      (active.mapM (renderOne second names)).run.run log = (.ok results', after) ∧
      List.Forall₂ (ResultsAgree R) results results' ∧ results.map (·.1) = active := by
  induction active generalizing log with
  | nil => exact ⟨[], [], log, rfl, rfl, .nil, rfl⟩
  | cons model rest ih =>
    obtain ⟨answer, answer', middle, call, call', agree⟩ :=
      inStep names model (fitting model (List.mem_cons_self ..)) log
    obtain ⟨sameVerdict, sameWarnings⟩ := agree.verdicts
    obtain ⟨results, results', after, restRun, restRun', restAgree, restModels⟩ :=
      ih (fun other member => fitting other (List.mem_cons_of_mem model member))
        (middle ++ verdictWarnings model answer)
    refine ⟨_, _, after, ?_, ?_, .cons sameVerdict restAgree, by simp [restModels]⟩
    · rw [List.mapM_cons, Run.run_bind_of_ok (renderOne_run call), Run.run_bind_of_ok restRun]
      rfl
    · rw [List.mapM_cons, Run.run_bind_of_ok (renderOne_run call'), ← sameWarnings,
        Run.run_bind_of_ok restRun']
      rfl

theorem failures_eq_of_agree {R : ModelPlan → α → β → Prop}
    {results : List (ModelPlan × Except String α)} {results' : List (ModelPlan × Except String β)}
    (agree : List.Forall₂ (ResultsAgree R) results results') : failures results = failures results' := by
  induction agree with
  | nil => rfl
  | @cons result result' _ _ head _ ih =>
    obtain ⟨model, reason | x⟩ := result <;> obtain ⟨model', reason' | y⟩ := result' <;>
      obtain ⟨sameModel, sameVerdict⟩ := head <;> cases sameModel
    · have sameReason : reason = reason' := sameVerdict
      rw [failures_cons_error, failures_cons_error, sameReason, ih]
    · cases (sameVerdict : False)
    · cases (sameVerdict : False)
    · rw [failures_cons_ok, failures_cons_ok, ih]

theorem successes_agree {R : ModelPlan → α → β → Prop}
    {results : List (ModelPlan × Except String α)} {results' : List (ModelPlan × Except String β)}
    (agree : List.Forall₂ (ResultsAgree R) results results') :
    List.Forall₂ (fun r r' => r.1 = r'.1 ∧ R r.1 r.2 r'.2) (successes results) (successes results') := by
  induction agree with
  | nil => exact .nil
  | @cons result result' _ _ head _ ih =>
    obtain ⟨model, reason | x⟩ := result <;> obtain ⟨model', reason' | y⟩ := result' <;>
      obtain ⟨sameModel, sameVerdict⟩ := head <;> cases sameModel
    · rw [successes_cons_error, successes_cons_error]
      exact ih
    · cases (sameVerdict : False)
    · cases (sameVerdict : False)
    · rw [successes_cons_ok, successes_cons_ok]
      exact .cons ⟨rfl, sameVerdict⟩ ih

theorem map_fst_eq_of_forall₂ {R : ModelPlan → α → β → Prop} {rendered : List (ModelPlan × α)}
    {rendered' : List (ModelPlan × β)}
    (related : List.Forall₂ (fun r r' => r.1 = r'.1 ∧ R r.1 r.2 r'.2) rendered rendered') :
    rendered.map (·.1) = rendered'.map (·.1) := by
  induction related with
  | nil => rfl
  | cons head _ ih => rw [List.map_cons, List.map_cons, head.1, ih]

theorem renderRounds_lockstep {fits : ModelPlan → Prop} {R : ModelPlan → α → β → Prop}
    {first : Renderer α} {second : Renderer β} (inStep : Renderer.InStep fits R first second) :
    ∀ (fuel : Nat) (p : Pass) (log : List LogEntry), (∀ model ∈ p.active, fits model) →
      ∃ out out' after,
      (renderRounds first fuel p).run.run log = (.ok out, after) ∧
      (renderRounds second fuel p).run.run log = (.ok out', after) ∧
      out.failed = out'.failed ∧ out.classNames = out'.classNames ∧ out.rounds = out'.rounds ∧
      List.Forall₂ (fun r r' => r.1 = r'.1 ∧ R r.1 r.2 r'.2) out.rendered out'.rendered
  | 0, p, log, _ => ⟨_, _, log, rfl, rfl, rfl, rfl, rfl, .nil⟩
  | fuel + 1, p, log, fitting => by
    obtain ⟨results, results', middle, round, round', agree, called⟩ :=
      round_lockstep inStep p.names p.active fitting log
    have dropped := failures_eq_of_agree agree
    have kept := successes_agree agree
    rw [renderRounds, renderRounds, Run.run_bind_of_ok round, Run.run_bind_of_ok round', ← dropped]
    by_cases none : (failures results).isEmpty
    · rw [if_pos none, if_pos none]
      exact ⟨_, _, middle, rfl, rfl, rfl, rfl, rfl, kept⟩
    · rw [if_neg none, if_neg none]
      -- the next states agree: the same models stay and the same ones are dropped
      have sameNext : p.next results = p.next results' := by
        simp only [Pass.next, dropped, map_fst_eq_of_forall₂ kept]
      have stillFitting : ∀ model ∈ (p.next results).active, fits model := by
        intro model member
        have survivor := (successes_sublist results).subset member
        rw [called] at survivor
        exact fitting model survivor
      rw [← sameNext]
      exact renderRounds_lockstep inStep fuel _ middle stillFitting

end ModelTables
