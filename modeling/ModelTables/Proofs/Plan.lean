import ModelTables.Plan.Basic
import ModelTables.Schema.Build
import ModelTables.Proofs.Run
import ModelTables.Proofs.Naming

/-! # What the first pass plans

`Schema.plan` describes each admitted model of the schema under the configured
kind map, labels it by its identity, and names all of them at once.  Every plan it
returns is `Described`: its class-name table lists the planned models in order,
each planned model is the description of a model of the schema, and no two
planned models share a class name.

The pass fails exactly when an include or exclude pattern does not compile on the
label of a model of a requested app.  Otherwise it plans the models of the requested
apps that the patterns admit and that have something to describe, skips the others
of those apps, each list in schema order, and names the planned models by the naming
rule of `Naming.ClassNamed` (`Plan.Triaged`).

Main statements: `plan_described`, `plan_triages`.
-/

namespace ModelTables

/-- What every plan of a schema satisfies. -/
structure Plan.Described (schema : Schema) (kinds : KindMap) (plan : Plan) : Prop where
  classNames : plan.classNames = plan.models.map fun m => (m.label, m.className)
  labels : ∀ m ∈ plan.models, m.label = m.info.identity
  described : ∀ m ∈ plan.models, ∃ model ∈ schema.models, m.info = schema.describe (some kinds) model
  distinct : (plan.models.map (·.className)).Nodup

namespace Schema

/-- A model that the first pass plans is planned with its description. -/
theorem triage_eq_described {schema : Schema} {opts : PlanOptions} {model : Model} {info : ModelInfo}
    (planned : schema.triage opts model = .ok (some (.inr info))) :
    info = schema.describe (some opts.kinds) model := by
  unfold triage at planned
  split at planned
  · unfold triage.go at planned
    obtain ⟨admitted, -, planned⟩ := Except.bind_eq_ok_iff.mp planned
    split at planned
    · cases planned
    · dsimp only at planned
      split at planned
      · cases planned
      · simp only [pure, Except.pure, Except.ok.injEq, Option.some.injEq, Sum.inr.injEq] at planned
        exact planned.symm
  · cases planned

theorem plan_described {schema : Schema} {opts : PlanOptions} {plan : Plan}
    (planned : schema.plan opts = .ok plan) : plan.Described schema opts.kinds := by
  unfold Schema.plan at planned
  obtain ⟨verdicts, triaged, planned⟩ := Except.bind_eq_ok_iff.mp planned
  simp only [pure, Except.pure, Except.ok.injEq] at planned
  subst planned
  refine ⟨rfl, ?labels, ?described, ?distinct⟩
  case labels =>
    intro m member
    obtain ⟨⟨info, className⟩, -, rfl⟩ := List.mem_map.mp member
    rfl
  case described =>
    intro m member
    obtain ⟨⟨info, className⟩, pair, rfl⟩ := List.mem_map.mp member
    obtain ⟨verdict, triagedVerdict, kept⟩ := List.mem_filterMap.mp (List.of_mem_zip pair).1
    rcases verdict with skipped | info'
    · cases kept
    · cases kept
      obtain ⟨model, inSchema, triagedModel⟩ := filterMapM_eq_ok triaged _ triagedVerdict
      exact ⟨model, inSchema, triage_eq_described triagedModel⟩
  case distinct =>
    -- the class names are those `assignClassNames` gives, one per planned model
    rw [List.map_map]
    show (List.map Prod.snd (List.zip _ _)).Nodup
    rw [List.map_snd_zip (by simp [Naming.length_assignClassNames])]
    exact Naming.assignClassNames_nodup _ _

/-- Every verdict of the first pass on a model carries the model's label. -/
theorem triage_label {schema : Schema} {opts : PlanOptions} {model : Model}
    {verdict : Sum Skipped ModelInfo} (triaged : schema.triage opts model = .ok (some verdict)) :
    Sum.elim (·.label) (·.identity) verdict = model.label := by
  unfold triage at triaged
  split at triaged
  · unfold triage.go at triaged
    obtain ⟨admitted, -, triaged⟩ := Except.bind_eq_ok_iff.mp triaged
    split at triaged
    · simp only [pure, Except.pure, Except.ok.injEq, Option.some.injEq] at triaged
      subst triaged
      rfl
    · dsimp only at triaged
      split at triaged <;>
      · simp only [pure, Except.pure, Except.ok.injEq, Option.some.injEq] at triaged
        subst triaged
        rfl
  · cases triaged

/-- The planned models of a schema whose labels are distinct have distinct labels. -/
theorem plan_labels_nodup {schema : Schema} {opts : PlanOptions} {plan : Plan}
    (distinct : (schema.models.map Model.label).Nodup) (planned : schema.plan opts = .ok plan) :
    (plan.models.map (·.label)).Nodup := by
  unfold Schema.plan at planned
  obtain ⟨verdicts, triaged, planned⟩ := Except.bind_eq_ok_iff.mp planned
  simp only [pure, Except.pure, Except.ok.injEq] at planned
  subst planned
  -- the verdicts keep the labels of their models, in schema order
  have verdictLabels : (verdicts.map (Sum.elim (·.label) (·.identity))).Sublist
      (schema.models.map Model.label) :=
    filterMapM_keys_sublist (fun _ _ => triage_label) triaged
  refine (distinct.sublist verdictLabels).sublist ?_
  rw [List.map_map]
  show (List.map (ModelInfo.identity ∘ Prod.fst) (List.zip _ _)).Sublist _
  rw [← List.map_map, List.map_fst_zip (by simp [Naming.length_assignClassNames])]
  refine filterMap_keys_sublist (fun verdict info kept => ?_) verdicts
  rcases verdict with skipped | info'
  · cases kept
  · cases kept
    rfl

end Schema

/-! ## The verdicts -/

namespace PlanOptions

/-- Whether the include and exclude patterns admit a label; patterns that do not
compile admit nothing. -/
def includes (opts : PlanOptions) (label : String) : Bool :=
  match Glob.admits opts.allowed opts.denied label with
  | .ok admitted => admitted
  | .error _ => false

end PlanOptions

namespace Schema

variable (schema : Schema) (opts : PlanOptions)

/-- The include and exclude patterns give an answer, not a failure, for the label of
every model of a requested app. -/
def PatternsAnswer : Prop :=
  ∀ model ∈ schema.models, opts.apps.admits model.header.appLabel = true →
    ∃ admitted, Glob.admits opts.allowed opts.denied model.label = .ok admitted

/-- Whether the first pass plans a model: its app is requested, the patterns admit
its label and its description gives no reason to skip it. -/
def plans (model : Model) : Bool :=
  opts.apps.admits model.header.appLabel && opts.includes model.label &&
    (schema.describe (some opts.kinds) model).skipReason?.isNone

/-- How the first pass skips a model, if it does: a model of a requested app is
`filtered` when the patterns reject it, and otherwise skipped for the reason its
description gives. -/
def skip? (model : Model) : Option Skipped :=
  if opts.apps.admits model.header.appLabel then
    if opts.includes model.label then
      (schema.describe (some opts.kinds) model).skipReason?.map fun reason => ⟨model.label, reason⟩
    else some ⟨model.label, "filtered"⟩
  else none

/-- The verdict of the first pass on a model, when the patterns answer for it. -/
def verdict (model : Model) : Option (Sum Skipped ModelInfo) :=
  if schema.plans opts model then some (.inr (schema.describe (some opts.kinds) model))
  else (schema.skip? opts model).map .inl

variable {schema opts}

theorem skip?_of_plans {model : Model} (planned : schema.plans opts model = true) :
    schema.skip? opts model = none := by
  simp only [plans, Bool.and_eq_true, Option.isNone_iff_eq_none] at planned
  obtain ⟨⟨requested, included⟩, unskipped⟩ := planned
  simp [skip?, requested, included, unskipped]

/-- Where the patterns answer for a model, the first pass gives its verdict. -/
theorem triage_eq_verdict {model : Model}
    (answers : opts.apps.admits model.header.appLabel = true →
      ∃ admitted, Glob.admits opts.allowed opts.denied model.label = .ok admitted) :
    schema.triage opts model = .ok (schema.verdict opts model) := by
  unfold triage
  by_cases requested : opts.apps.admits model.header.appLabel = true
  · obtain ⟨admitted, admits⟩ := answers requested
    have includes : opts.includes model.label = admitted := by
      simp [PlanOptions.includes, admits]
    rw [if_pos requested]
    unfold triage.go
    rw [admits]
    -- the verdict reads the patterns' answer and the skip reason of the description
    rcases described : (schema.describe (some opts.kinds) model).skipReason? with _ | reason <;>
      cases admitted <;>
      simp [verdict, plans, skip?, requested, includes, described, Except.mapError, bind,
        Except.bind, pure, Except.pure]
  · simp [requested, verdict, plans, skip?]

/-- A pattern that does not compile on the label of a model of a requested app fails
the first pass on that model. -/
theorem triage_eq_error_of_admits {model : Model} {reason : String}
    (requested : opts.apps.admits model.header.appLabel = true)
    (invalid : Glob.admits opts.allowed opts.denied model.label = .error reason) :
    schema.triage opts model = .error (.invalidPattern reason) := by
  unfold triage triage.go
  rw [if_pos requested, invalid]
  rfl

/-- The first pass fails on a model only in a requested app, at a pattern that does
not compile on its label. -/
theorem triage_eq_error {model : Model} {failure : Failure}
    (failed : schema.triage opts model = .error failure) :
    opts.apps.admits model.header.appLabel = true ∧
      ∃ reason, Glob.admits opts.allowed opts.denied model.label = .error reason ∧
        failure = .invalidPattern reason := by
  by_cases requested : opts.apps.admits model.header.appLabel = true
  · rcases admits : Glob.admits opts.allowed opts.denied model.label with reason | admitted
    · rw [triage_eq_error_of_admits requested admits] at failed
      cases failed
      exact ⟨requested, reason, rfl, rfl⟩
    · rw [triage_eq_verdict fun _ => ⟨admitted, admits⟩] at failed
      cases failed
  · rw [triage_eq_verdict fun answered => absurd answered requested] at failed
    cases failed

/-! ## The pass -/

theorem plan_patternsAnswer {plan : Plan} (planned : schema.plan opts = .ok plan) :
    schema.PatternsAnswer opts := by
  unfold Schema.plan at planned
  obtain ⟨verdicts, triaged, -⟩ := Except.bind_eq_ok_iff.mp planned
  intro model member requested
  obtain ⟨r, triagedModel⟩ := ok_of_filterMapM triaged model member
  rcases admits : Glob.admits opts.allowed opts.denied model.label with reason | admitted
  · rw [triage_eq_error_of_admits requested admits] at triagedModel
    cases triagedModel
  · exact ⟨admitted, rfl⟩

theorem plan_of_patternsAnswer (answers : schema.PatternsAnswer opts) :
    ∃ plan, schema.plan opts = .ok plan := by
  unfold Schema.plan
  rw [filterMapM_of_ok fun model member => triage_eq_verdict (answers model member)]
  exact ⟨_, rfl⟩

theorem plan_eq_error {failure : Failure} (failed : schema.plan opts = .error failure) :
    ∃ model ∈ schema.models, opts.apps.admits model.header.appLabel = true ∧
      ∃ reason, Glob.admits opts.allowed opts.denied model.label = .error reason ∧
        failure = .invalidPattern reason := by
  unfold Schema.plan at failed
  -- past the verdicts the pass cannot fail
  rcases triaged : schema.models.filterMapM (schema.triage opts) with first | verdicts
  · rw [triaged] at failed
    cases failed
    obtain ⟨model, member, fails⟩ := error_of_filterMapM triaged
    exact ⟨model, member, triage_eq_error fails⟩
  · rw [triaged] at failed
    cases failed

end Schema

/-- What the first pass returns, model by model: the descriptions of the planned
models and the skipped models, each in schema order, and class names by the naming
rule. -/
structure Plan.Triaged (schema : Schema) (opts : PlanOptions) (plan : Plan) : Prop
    extends Plan.Described schema opts.kinds plan where
  planned : plan.models.map (·.info) =
    (schema.models.filter (schema.plans opts)).map (schema.describe (some opts.kinds))
  skipped : plan.skipped = schema.models.filterMap (schema.skip? opts)
  named : Naming.ClassNamed (plan.models.map fun m => (m.info.appLabel, m.info.objectName))
    opts.suffix (plan.models.map (·.className))

namespace Schema

variable {schema : Schema} {opts : PlanOptions}

theorem plan_triaged {plan : Plan} (planned : schema.plan opts = .ok plan) :
    plan.Triaged schema opts := by
  have answers := plan_patternsAnswer planned
  have described := plan_described planned
  have lengths : ∀ infos : List ModelInfo,
      (Naming.assignClassNames (infos.map fun i => (i.appLabel, i.objectName)) opts.suffix).length =
        infos.length :=
    fun infos => by simp [Naming.length_assignClassNames]
  unfold Schema.plan at planned
  rw [filterMapM_of_ok fun model member => triage_eq_verdict (answers model member)] at planned
  simp only [bind, Except.bind, pure, Except.pure, Except.ok.injEq] at planned
  subst planned
  -- each list of the plan is a filter-map of the verdicts, model by model
  refine ⟨described, ?planned, ?skipped, ?named⟩
  case planned =>
    simp only [List.map_map, Function.comp_def]
    rw [List.map_fst_zip (Nat.le_of_eq (lengths _).symm), List.filterMap_filterMap,
      ← List.filterMap_eq_map', List.filterMap_filter]
    congr 1
    funext model
    unfold verdict
    split
    · rfl
    · cases schema.skip? opts model <;> rfl
  case skipped =>
    dsimp only
    rw [List.filterMap_filterMap]
    congr 1
    funext model
    unfold verdict
    split
    · rename_i planned
      rw [skip?_of_plans planned]
      rfl
    · cases schema.skip? opts model <;> rfl
  case named =>
    dsimp only
    simp only [List.map_map, Function.comp_def]
    rw [List.map_snd_zip (Nat.le_of_eq (lengths _)),
      show (fun x : ModelInfo × String => (x.1.appLabel, x.1.objectName)) =
        (fun i : ModelInfo => (i.appLabel, i.objectName)) ∘ Prod.fst from rfl,
      ← List.map_map, List.map_fst_zip (Nat.le_of_eq (lengths _).symm)]
    exact Naming.assignClassNames_classNamed _ _

/-- The first pass fails exactly at a pattern that does not compile on the label of a
model of a requested app; otherwise it plans, skips and names the models of the
schema as `Plan.Triaged` says. -/
theorem plan_triages (schema : Schema) (opts : PlanOptions) :
    ((∃ plan, schema.plan opts = .ok plan) ↔ schema.PatternsAnswer opts) ∧
    (∀ failure, schema.plan opts = .error failure →
      ∃ model ∈ schema.models, opts.apps.admits model.header.appLabel = true ∧
        ∃ reason, Glob.admits opts.allowed opts.denied model.label = .error reason ∧
          failure = .invalidPattern reason) ∧
    ∀ plan, schema.plan opts = .ok plan → plan.Triaged schema opts :=
  ⟨⟨fun ⟨_, planned⟩ => plan_patternsAnswer planned, plan_of_patternsAnswer⟩,
    fun _ => plan_eq_error, fun _ => plan_triaged⟩

end Schema

/-- One model `a.M` of one integer field. -/
def singleManifest : Manifest :=
  { defaultAutoField := "BigAutoField", enums := []
    models := [{ app := "a", name := "M", fields := [{ name := "w", kind := "IntegerField" }] }] }

theorem plan_triages_on_single :
    ∃ schema plan, Schema.build singleManifest = .ok schema ∧ schema.plan {} = .ok plan ∧
      plan.Triaged schema {} :=
  ⟨_, _, rfl, rfl, (Schema.plan_triages _ _).2.2 _ rfl⟩

/-- A POSIX class in front of a dash makes an include pattern that Unicode mode does
not compile: the first pass fails on it rather than skip `a.M` as filtered. -/
theorem plan_fails_on_class_before_dash :
    ∃ schema, Schema.build singleManifest = .ok schema ∧
      Glob.admits (some ["[[:alpha:]]-x"]) none "a.M" =
        .error "Invalid regular expression: /^(?!(?:^|/)\\.\\.?(?:$|/))[\\p{L}\\p{Nl}]\\-x$/u: Invalid escape" ∧
      (schema.plan { allowed := some ["[[:alpha:]]-x"] }).isOk = false :=
  ⟨_, rfl, by decide +kernel, by decide +kernel⟩

end ModelTables
