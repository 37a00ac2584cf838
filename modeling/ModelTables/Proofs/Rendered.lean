import ModelTables.Proofs.Parity

/-! # Which models render, and in how many rounds

A planned model renders exactly when one of its described fields is stored as a
data column: a field that is no relation, that is well formed, and whose kind has a
column builder (`ModelPlan.HasDataColumn`).  Relations never count: whether a
relation is kept depends on the class names, but a kept relation adds no data
column and a dropped one removes none.  So the answer does not depend on the class
names, and neither renderer ever fails.

Main statement: `models_render_iff_data_column`.  Both the table builder and the
text renderer render exactly the models with a data column, and a pass with
either ends after one round when every planned model has one, and after exactly
two otherwise: the first round drops the models without, and the second, run
without their class names, renders all the others again.
-/

namespace ModelTables

/-- A described field stored as a data column: no relation, well formed, and of a
kind with a column builder. -/
def FieldInfo.StoresData (info : FieldInfo) : Prop :=
  info.isRelation = false ∧ info.invalidReason? = none ∧ info.internalType.columnKind?.isSome = true

instance : DecidablePred FieldInfo.StoresData := fun info =>
  inferInstanceAs (Decidable (info.isRelation = false ∧ info.invalidReason? = none ∧
    info.internalType.columnKind?.isSome = true))

/-- A planned model one of whose described fields is stored as a data column. -/
def ModelPlan.HasDataColumn (model : ModelPlan) : Prop := ∃ info ∈ model.info.fields, info.StoresData

instance : DecidablePred ModelPlan.HasDataColumn := fun model =>
  inferInstanceAs (Decidable (∃ info ∈ model.info.fields, info.StoresData))

/-- Whether a planned field becomes a data column. -/
def FieldPlan.storesData : FieldPlan → Bool
  | .data info => info.internalType.columnKind?.isSome
  | .relation .. => false

/-! ## Fields -/

/-- Planning keeps a field as a data column exactly when it is stored as one. -/
theorem FieldInfo.plan?_storesData (names : ClassNames) (info : FieldInfo) :
    (∃ plan, info.plan? names = some plan ∧ plan.storesData = true) ↔ info.StoresData := by
  constructor
  · rintro ⟨plan, planned, stores⟩
    cases plan with
    | relation => cases stores
    | data kept =>
      obtain ⟨rfl, unrelated⟩ := FieldInfo.plan?_eq_data planned
      have valid : kept.invalidReason? = none := by
        cases invalid : kept.invalidReason? with
        | none => rfl
        | some reason => simp [FieldInfo.plan?, invalid] at planned
      -- a relation without a target would have been refused as invalid
      have plain : kept.isRelation = false := by
        cases related : kept.isRelation with
        | false => rfl
        | true => simp [FieldInfo.invalidReason?, related, unrelated related] at valid
      exact ⟨plain, valid, stores⟩
  · rintro ⟨plain, valid, builder⟩
    exact ⟨.data info, by simp [FieldInfo.plan?, valid, plain], builder⟩

/-- Some planned field becomes a data column exactly when some described field is
stored as one. -/
theorem countP_storesData_pos (names : ClassNames) (fields : List FieldInfo) :
    0 < (fields.filterMap (FieldInfo.plan? names)).countP FieldPlan.storesData ↔
      ∃ info ∈ fields, info.StoresData := by
  rw [List.countP_pos_iff]
  constructor
  · rintro ⟨plan, member, stores⟩
    obtain ⟨info, listed, planned⟩ := List.mem_filterMap.mp member
    exact ⟨info, listed, (FieldInfo.plan?_storesData names info).mp ⟨plan, planned, stores⟩⟩
  · rintro ⟨info, listed, stored⟩
    obtain ⟨plan, planned, stores⟩ := (FieldInfo.plan?_storesData names info).mpr stored
    exact ⟨plan, List.mem_filterMap.mpr ⟨info, listed, planned⟩, by simpa using stores⟩

/-! ## One model

Building a field counts a data column exactly for a planned data field with a
builder, on both sides; a relation, kept or not, counts nothing. -/

theorem addColumn_counts (parts : TableParts) (plan : FieldPlan) (log : List LogEntry) :
    ∃ parts' after, (addColumn parts plan).run.run log = (.ok parts', after) ∧
      parts'.dataFields = parts.dataFields + if plan.storesData then 1 else 0 := by
  cases plan with
  | data info =>
    cases builder : info.internalType.columnKind? with
    | none =>
      exact ⟨_, _, by simp only [addColumn, buildDataColumn, builder]; rfl,
        by simp [FieldPlan.storesData, builder]⟩
    | some kind =>
      exact ⟨_, _, by simp only [addColumn, buildDataColumn, builder]; rfl,
        by simp [FieldPlan.storesData, builder]⟩
  | relation info target targetClassName =>
    obtain ⟨built, -, after, builtRun, -, -⟩ := relationField_inStep info targetClassName log
    simp only [addColumn]
    rw [Run.run_bind_of_ok builtRun]
    rcases built with _ | ⟨descriptor, column⟩
    · exact ⟨_, _, rfl, by simp [FieldPlan.storesData]⟩
    · exact ⟨_, _, rfl, by simp [FieldPlan.storesData]⟩

theorem addField_counts (schema : Schema) (appLabel : String) (parts : Code.SourceParts)
    (plan : FieldPlan) (log : List LogEntry) :
    ∃ parts' after, (Code.addField schema appLabel parts plan).run.run log = (.ok parts', after) ∧
      parts'.dataFields = parts.dataFields + if plan.storesData then 1 else 0 := by
  cases plan with
  | data info =>
    cases builder : info.internalType.columnKind? with
    | none =>
      exact ⟨_, _, by simp only [Code.addField, Code.renderDataField, builder]; rfl,
        by simp [FieldPlan.storesData, builder]⟩
    | some kind =>
      exact ⟨_, _, by simp only [Code.addField, Code.renderDataField, builder]; rfl,
        by simp [FieldPlan.storesData, builder]⟩
  | relation info target targetClassName =>
    obtain ⟨-, rendered, after, -, renderedRun, -⟩ := relationField_inStep info targetClassName log
    simp only [Code.addField]
    rw [Run.run_bind_of_ok renderedRun]
    rcases rendered with _ | ⟨descriptor, _ | source⟩
    · exact ⟨_, _, rfl, by simp [FieldPlan.storesData]⟩
    · exact ⟨_, _, rfl, by simp [FieldPlan.storesData]⟩
    · exact ⟨_, _, rfl, by simp [FieldPlan.storesData]⟩

/-- Keeping the uniqueness groups never fails. -/
theorem retainUniqueTogether_run (model : ModelPlan) (columns : List String) (log : List LogEntry) :
    ∃ groups after, (retainUniqueTogether model columns).run.run log = (.ok groups, after) := by
  refine Run.foldlM_ok model.info.uniqueTogether (fun group _ kept log => ?_) [] log
  by_cases dropped : group.isEmpty || !(group.filter fun name => !columns.contains name).isEmpty
  · exact ⟨_, _, by simp only [dropped, if_true]; rfl⟩
  · exact ⟨_, _, by simp only [dropped, if_false, Bool.false_eq_true]; rfl⟩

theorem buildModel_run (appName : String) (names : ClassNames) (model : ModelPlan) (log : List LogEntry) :
    ∃ built after, (buildModel appName names model).run.run log = (.ok built, after) ∧
      (built.isSome ↔ model.HasDataColumn) := by
  obtain ⟨middle, plansRun⟩ := planFields_run model names log
  obtain ⟨parts, folded, foldRun, counted⟩ := Run.foldlM_count TableParts.dataFields FieldPlan.storesData
    (model.info.fields.filterMap (FieldInfo.plan? names)) (fun plan _ parts log => addColumn_counts parts plan log)
    {} middle
  replace counted : parts.dataFields = (model.info.fields.filterMap (FieldInfo.plan? names)).countP
      FieldPlan.storesData := by simpa using counted
  have stored := countP_storesData_pos names model.info.fields
  unfold buildModel
  rw [Run.run_bind_of_ok plansRun, Run.run_bind_of_ok foldRun]
  by_cases empty : parts.dataFields == 0
  · refine ⟨none, folded, by simp only [empty, if_true]; rfl, ?_⟩
    simp only [beq_iff_eq] at empty
    simp only [Option.isSome_none, Bool.false_eq_true, false_iff, ModelPlan.HasDataColumn, ← stored]
    omega
  · obtain ⟨groups, final, retained⟩ := retainUniqueTogether_run model
      parts.columns.keys folded
    refine ⟨_, final, by simp only [empty, if_false, Bool.false_eq_true]; rw [Run.run_bind_of_ok retained]; rfl, ?_⟩
    simp only [beq_iff_eq] at empty
    simp only [Option.isSome_some, true_iff, ModelPlan.HasDataColumn, ← stored]
    omega

theorem renderModel_run (schema : Schema) (appName : String) (names : ClassNames) (model : ModelPlan)
    (log : List LogEntry) :
    ∃ source after, (Code.renderModel schema appName names model).run.run log = (.ok source, after) ∧
      (source.isSome ↔ model.HasDataColumn) := by
  obtain ⟨middle, plansRun⟩ := planFields_run model names log
  obtain ⟨parts, folded, foldRun, counted⟩ := Run.foldlM_count Code.SourceParts.dataFields
    FieldPlan.storesData (model.info.fields.filterMap (FieldInfo.plan? names))
    (fun plan _ parts log => addField_counts schema model.info.appLabel parts plan log)
    { imports := [Code.pgImport "pgTable"] } middle
  replace counted : parts.dataFields = (model.info.fields.filterMap (FieldInfo.plan? names)).countP
      FieldPlan.storesData := by simpa using counted
  have partsRun : (Code.renderParts schema names model).run.run log = (.ok parts, folded) := by
    rw [Code.renderParts, Run.run_bind_of_ok plansRun, foldRun]
  have stored := countP_storesData_pos names model.info.fields
  unfold Code.renderModel
  rw [Run.run_bind_of_ok partsRun]
  by_cases empty : parts.dataFields == 0
  · refine ⟨none, folded, by simp only [empty, if_true]; rfl, ?_⟩
    simp only [beq_iff_eq] at empty
    simp only [Option.isSome_none, Bool.false_eq_true, false_iff, ModelPlan.HasDataColumn, ← stored]
    omega
  · obtain ⟨groups, final, retained⟩ := retainUniqueTogether_run model parts.columns folded
    refine ⟨_, final, by simp only [empty, if_false, Bool.false_eq_true]; rw [Run.run_bind_of_ok retained]; rfl, ?_⟩
    simp only [beq_iff_eq] at empty
    simp only [Option.isSome_some, true_iff, ModelPlan.HasDataColumn, ← stored]
    omega

/-! ## Rounds -/

section Rounds

variable {α : Type} {P : ModelPlan → Prop} [DecidablePred P] {render : Renderer α}

/-- A renderer that never fails and renders exactly the models satisfying `P`,
whatever the class names and the log. -/
def Renderer.RendersExactly (render : Renderer α) (P : ModelPlan → Prop) : Prop :=
  ∀ names model log, ∃ result after, (render names model).run.run log = (.ok result, after) ∧
    (result.isSome ↔ P model)

/-- A round of such a renderer renders the active models satisfying `P`, in order,
and drops the others as having no convertible fields. -/
theorem round_of_rendersExactly (decides : render.RendersExactly P) (names : ClassNames)
    (active : List ModelPlan) (log : List LogEntry) :
    ∃ results after, (active.mapM (renderOne render names)).run.run log = (.ok results, after) ∧
      (successes results).map (·.1) = active.filter (fun m => decide (P m)) ∧
      failures results = (active.filter fun m => !decide (P m)).map fun m => (m, "no convertible fields") := by
  induction active generalizing log with
  | nil => exact ⟨[], log, rfl, rfl, rfl⟩
  | cons model rest ih =>
    obtain ⟨result, middle, call, iff⟩ := decides names model log
    obtain ⟨results, after, restRun, restSuccesses, restFailures⟩ :=
      ih (middle ++ verdictWarnings model (.ok result))
    refine ⟨(model, verdict (.ok result)) :: results, after, ?_, ?_⟩
    · rw [List.mapM_cons, Run.run_bind_of_ok (renderOne_run call), Run.run_bind_of_ok restRun]
      rfl
    · by_cases holds : P model
      · obtain ⟨x, rfl⟩ := Option.isSome_iff_exists.mp (iff.mpr holds)
        simp [verdict, holds, restSuccesses, restFailures]
      · have absent : result = none := Option.not_isSome_iff_eq_none.mp (mt iff.mp holds)
        subst absent
        simp [verdict, holds, restSuccesses, restFailures]

/-- A pass with such a renderer renders exactly the planned models satisfying `P`,
in plan order; it drops the others as having no convertible fields; and it takes
one round when every planned model satisfies `P`, two otherwise. -/
theorem render_of_rendersExactly (decides : render.RendersExactly P) (plan : Plan) (log : List LogEntry) :
    ∃ out after, (plan.render render).run.run log = (.ok out, after) ∧
      out.rendered.map (·.1) = plan.models.filter (fun m => decide (P m)) ∧
      out.failed = (plan.models.filter fun m => !decide (P m)).map
        (fun m => { label := m.label, reason := "no convertible fields" }) ∧
      out.rounds = if ∀ m ∈ plan.models, P m then 1 else 2 := by
  obtain ⟨results, after, roundRun, rendered, dropped⟩ :=
    round_of_rendersExactly decides (Pass.start plan).names (Pass.start plan).active log
  replace rendered : (successes results).map (·.1) = plan.models.filter (fun m => decide (P m)) := rendered
  replace dropped : failures results = (plan.models.filter fun m => !decide (P m)).map
      (fun m => (m, "no convertible fields")) := dropped
  rw [Plan.render, renderRounds, Run.run_bind_of_ok roundRun]
  by_cases every : ∀ m ∈ plan.models, P m
  · -- the first round drops nothing
    have allKept : plan.models.filter (fun m => !decide (P m)) = [] :=
      List.filter_eq_nil_iff.mpr fun m member => by simp [every m member]
    have none_ : failures results = [] := by rw [dropped, allKept]; rfl
    refine ⟨_, after, by simp only [none_, List.isEmpty_nil, if_true]; rfl, rendered, ?_, ?_⟩
    · simp [Pass.finish, Pass.start, allKept]
    · rw [if_pos every]
      rfl
  · -- the first round drops the models without, and the second renders all the others
    obtain ⟨missing, listed, lacks⟩ : ∃ m ∈ plan.models, ¬ P m := by simpa using every
    have some_ : (failures results).isEmpty = false := by
      rw [dropped, List.isEmpty_eq_false_iff, ne_eq, List.map_eq_nil_iff, List.filter_eq_nil_iff]
      exact fun all => by simpa [lacks] using all missing listed
    obtain ⟨n, length⟩ : ∃ n, plan.models.length = n + 1 :=
      ⟨_, (Nat.succ_pred_eq_of_pos (List.length_pos_of_mem listed)).symm⟩
    obtain ⟨again, final, againRun, againRendered, againDropped⟩ := round_of_rendersExactly decides
      ((Pass.start plan).next results).names ((Pass.start plan).next results).active after
    have kept : ((Pass.start plan).next results).active = plan.models.filter fun m => decide (P m) := by
      simp [Pass.next, rendered]
    have none_ : failures again = [] := by
      rw [againDropped, kept, List.filter_filter]
      simp
    refine ⟨((Pass.start plan).next results).finish again, final, ?_, ?_, ?_, ?_⟩
    · simp only [some_, Bool.false_eq_true, if_false]
      rw [length, renderRounds, Run.run_bind_of_ok againRun]
      simp only [none_, List.isEmpty_nil, if_true]
      rfl
    · simp [Pass.finish, againRendered, kept, List.filter_filter]
    · simp [Pass.finish, Pass.next, Pass.start, dropped]
    · rw [if_neg every]
      rfl

end Rounds

/-! ## Both renderers -/

/-- Which models render, and how many rounds a pass takes.  Neither the table
builder nor the text renderer ever fails on a planned model, whatever the class
names, and each renders a model exactly when one of its described fields is stored
as a data column (no relation, well formed, of a kind with a builder), which the
class names do not decide.  So a pass with either renders exactly the planned
models with a data column, in plan order, drops the others as having no
convertible fields, and ends after one round when every planned model has a data
column and after exactly two otherwise. -/
theorem models_render_iff_data_column (schema : Schema) (appName : String) :
    Renderer.RendersExactly (buildModel appName) ModelPlan.HasDataColumn ∧
    Renderer.RendersExactly (Code.renderModel schema appName) ModelPlan.HasDataColumn ∧
    ∀ (plan : Plan) (log : List LogEntry),
      (∃ out after, (plan.render (buildModel appName)).run.run log = (.ok out, after) ∧
        out.rendered.map (·.1) = plan.models.filter (fun m => decide m.HasDataColumn) ∧
        out.failed = (plan.models.filter fun m => !decide m.HasDataColumn).map
          (fun m => { label := m.label, reason := "no convertible fields" }) ∧
        out.rounds = if ∀ m ∈ plan.models, m.HasDataColumn then 1 else 2) ∧
      (∃ out after, (plan.render (Code.renderModel schema appName)).run.run log = (.ok out, after) ∧
        out.rendered.map (·.1) = plan.models.filter (fun m => decide m.HasDataColumn) ∧
        out.failed = (plan.models.filter fun m => !decide m.HasDataColumn).map
          (fun m => { label := m.label, reason := "no convertible fields" }) ∧
        out.rounds = if ∀ m ∈ plan.models, m.HasDataColumn then 1 else 2) := by
  have built : Renderer.RendersExactly (buildModel appName) ModelPlan.HasDataColumn :=
    buildModel_run appName
  have rendered : Renderer.RendersExactly (Code.renderModel schema appName) ModelPlan.HasDataColumn :=
    renderModel_run schema appName
  exact ⟨built, rendered, fun plan log =>
    ⟨render_of_rendersExactly built plan log, render_of_rendersExactly rendered plan log⟩⟩

end ModelTables
