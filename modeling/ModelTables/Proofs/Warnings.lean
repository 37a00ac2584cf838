import ModelTables.Proofs.Rendered
import ModelTables.Proofs.KeyTypes

/-! # One warning for each dropped field

Rendering a planned model, as a table or as a declaration text, drops a described
field in one of two places, and warns once where it does:

* planning (`planField`) drops a field that is invalid, a relation to a model
  without a class name, or a relation whose referenced column will not exist
  (`FieldInfo.planWarning?`);
* converting a planned field drops a data field whose kind has no column builder
  and a relation whose kind has no descriptor (`FieldPlan.convertWarning?`).

A field dropped by planning is never converted, so each described field is either
dropped with exactly one warning (`FieldInfo.dropWarning?`) or kept with none.  The
planning warnings come first, in field order, then the conversion warnings; a
rendered model then warns once for each uniqueness group it drops.  A relation kept
by planning that stores a reference always finds a builder for it, so the
integer fallback of `buildReferenceColumn` and `Code.referenceSource` is never
taken from a renderer.

A model without a converted data field is not rendered, and then the fields that
were kept, relations all, are absent from any result and warned about by no one.

Main statement: `renderers_warn_once_per_drop`.
-/

namespace ModelTables

/-- The log entries of some warnings. -/
def warnEntries (messages : List String) : List LogEntry :=
  messages.map fun message => ⟨.warn, message⟩

@[simp] theorem warnEntries_nil : warnEntries [] = [] := rfl

@[simp] theorem warnEntries_append (first second : List String) :
    warnEntries (first ++ second) = warnEntries first ++ warnEntries second :=
  List.map_append

/-! ## The warnings of one field -/

namespace FieldInfo

variable (model : ModelPlan) (names : ClassNames)

/-- The warning with which planning drops a described field; `none` when it keeps
the field. -/
def planWarning? (info : FieldInfo) : Option String :=
  match info.invalidReason? with
  | some reason => some (model.label ++ ": " ++ reason ++ " Skipping.")
  | none =>
    match info.isRelation, info.relatedModel with
    | true, some target =>
      match names.get? target with
      | none => some ("Related model '" ++ target ++ "' of field '" ++ model.label ++ "." ++
          info.name ++ "' is not mirrored; dropping relation.")
      | some _ => (info.missingReference? names).map fun missing =>
          missing ++ "; dropping relation '" ++ model.label ++ "." ++ info.name ++ "'."
    | _, _ => none

/-- The warning with which converting a planned data field drops it. -/
def columnWarning? (info : FieldInfo) : Option String :=
  match info.internalType.columnKind? with
  | some _ => none
  | none => some ("Unsupported field type '" ++ info.internalType.text ++ "' on field '" ++
      info.name ++ "'. Skipping.")

/-- The warning with which converting a planned relation drops it. -/
def relationWarning? (info : FieldInfo) (targetClassName : String) : Option String :=
  match info.describeRelation targetClassName with
  | some _ => none
  | none => some ("Unsupported relation type '" ++ info.internalType.text ++ "' on field '" ++
      info.name ++ "'. Skipping.")

end FieldInfo

/-- The warning with which converting a planned field drops it; `none` when it
becomes a column or a relation. -/
def FieldPlan.convertWarning? : FieldPlan → Option String
  | .data info => info.columnWarning?
  | .relation info _ targetClassName => info.relationWarning? targetClassName

/-- The one warning a renderer drops a described field with, at planning or at
conversion; `none` when it keeps the field. -/
def FieldInfo.dropWarning? (model : ModelPlan) (names : ClassNames) (info : FieldInfo) :
    Option String :=
  match info.plan? names with
  | none => info.planWarning? model names
  | some plan => plan.convertWarning?

/-- A planned field whose conversion cannot reach the integer fallback: a data
field, or a relation that stores no reference or has a builder for the one it
stores. -/
def FieldPlan.Referable : FieldPlan → Prop
  | .data _ => True
  | .relation info _ _ => info.manyToMany = false → info.asReference.internalType.columnKind?.isSome

/-- The name a planned field adds to the rendered field names: its own, when it
converts. -/
def FieldPlan.keptName? (plan : FieldPlan) : Option String :=
  if plan.convertWarning?.isNone then some plan.info.name else none

/-! ## The warnings of one model -/

namespace ModelPlan

variable (model : ModelPlan) (names : ClassNames)

/-- The warnings about fields, in the order a renderer logs them: the planning
warnings in field order, then the conversion warnings of the planned fields. -/
def fieldWarnings : List String :=
  model.info.fields.filterMap (FieldInfo.planWarning? model names) ++
    (model.info.fields.filterMap (FieldInfo.plan? names)).filterMap FieldPlan.convertWarning?

/-- The described fields a renderer keeps: those it drops with no warning. -/
def keptFields : List FieldInfo :=
  model.info.fields.filter fun info => (info.dropWarning? model names).isNone

/-- The warning with which a uniqueness group is dropped, given the column keys;
`none` when it is kept. -/
def groupWarning? (columns : List String) (group : List String) : Option String :=
  let missing := group.filter fun name => !columns.contains name
  if group.isEmpty || !missing.isEmpty then
    some (model.label ++ ": dropping unique constraint (" ++ ", ".intercalate group ++
      "); missing fields: " ++ ", ".intercalate missing)
  else none

/-- The warnings about the uniqueness groups dropped given the column keys. -/
def groupWarnings (columns : List String) : List String :=
  model.info.uniqueTogether.filterMap (model.groupWarning? columns)

/-- The uniqueness groups kept given the column keys. -/
def retainedGroups (columns : List String) : List (List String) :=
  model.info.uniqueTogether.filter fun group => (model.groupWarning? columns group).isNone

end ModelPlan

/-! ## Planning -/

namespace FieldInfo

variable {model : ModelPlan} {names : ClassNames}

/-- Planning warns about a field exactly when it does not plan it. -/
theorem planWarning?_isSome_iff (info : FieldInfo) :
    (info.planWarning? model names).isSome ↔ info.plan? names = none := by
  unfold planWarning? plan?
  rcases info.invalidReason? with _ | reason
  · simp only [Option.isSome_none, Bool.false_eq_true, if_false]
    rcases info.isRelation <;> rcases info.relatedModel with _ | target
    · simp
    · simp
    · simp
    · rcases named : names.get? target with _ | targetClassName
      · simp [named]
      · rcases info.missingReference? names with _ | missing <;> simp [named]
  · simp

theorem planField_log (info : FieldInfo) (log : List LogEntry) :
    (planField model names info).run.run log =
      (.ok (info.plan? names), log ++ warnEntries (info.planWarning? model names).toList) := by
  unfold planField plan? planWarning?
  rcases info.invalidReason? with _ | reason
  · simp only [Option.isSome_none, Bool.false_eq_true, if_false]
    rcases info.isRelation <;> rcases info.relatedModel with _ | target
    -- a field planned as data logs nothing
    all_goals try (simp only [Option.toList_none, warnEntries_nil, List.append_nil]; rfl)
    rcases named : names.get? target with _ | targetClassName
    · simp only [named]
      rfl
    · rcases info.missingReference? names with _ | missing
      · simp only [named, Option.map_none, Option.toList_none, warnEntries_nil, List.append_nil]
        rfl
      · simp only [named]
        rfl
  · rfl

end FieldInfo

theorem planFields_log (model : ModelPlan) (names : ClassNames) (log : List LogEntry) :
    (planFields model names).run.run log =
      (.ok (model.info.fields.filterMap (FieldInfo.plan? names)),
        log ++ warnEntries (model.info.fields.filterMap (FieldInfo.planWarning? model names))) := by
  -- the planning of a list of fields, by induction on the list
  have each : ∀ (fields : List FieldInfo) (log : List LogEntry),
      (fields.mapM (planField model names)).run.run log =
        (.ok (fields.map (FieldInfo.plan? names)),
          log ++ warnEntries (fields.filterMap (FieldInfo.planWarning? model names))) := by
    intro fields
    induction fields with
    | nil =>
      intro log
      simp only [List.mapM_nil, List.map_nil, List.filterMap_nil, warnEntries_nil, List.append_nil]
      rfl
    | cons info rest ih =>
      intro log
      rw [List.mapM_cons, Run.run_bind_of_ok (FieldInfo.planField_log info log), Run.run_bind_of_ok (ih _)]
      cases warned : info.planWarning? model names <;>
        simp [warned, warnEntries] <;> rfl
  rw [planFields, Run.run_bind_of_ok (each model.info.fields log), List.filterMap_map]
  rfl

/-! ## One warning or none for each field -/

namespace FieldInfo

variable {model : ModelPlan} {names : ClassNames}

theorem dropWarning?_of_plan?_none {info : FieldInfo} (dropped : info.plan? names = none) :
    info.dropWarning? model names = info.planWarning? model names := by
  rw [dropWarning?, dropped]

theorem dropWarning?_of_plan?_some {info : FieldInfo} {plan : FieldPlan}
    (planned : info.plan? names = some plan) :
    info.dropWarning? model names = plan.convertWarning? := by
  rw [dropWarning?, planned]

theorem planWarning?_of_plan?_some {info : FieldInfo} {plan : FieldPlan}
    (planned : info.plan? names = some plan) : info.planWarning? model names = none := by
  rw [← Option.not_isSome_iff_eq_none, planWarning?_isSome_iff, planned]
  exact Option.some_ne_none plan

end FieldInfo

/-- The warnings of planning and those of conversion are, together, one warning for
each field dropped at either stage. -/
theorem filterMap_warnings_perm (model : ModelPlan) (names : ClassNames) :
    ∀ fields : List FieldInfo,
      (fields.filterMap (FieldInfo.planWarning? model names) ++
          (fields.filterMap (FieldInfo.plan? names)).filterMap FieldPlan.convertWarning?).Perm
        (fields.filterMap (FieldInfo.dropWarning? model names))
  | [] => .nil
  | info :: rest => by
    have restPerm := filterMap_warnings_perm model names rest
    rcases planned : info.plan? names with _ | plan
    · -- dropped by planning, with the planning warning
      obtain ⟨warning, warned⟩ := Option.isSome_iff_exists.mp
        ((@FieldInfo.planWarning?_isSome_iff model names info).mpr planned)
      simp only [List.filterMap_cons, planned, warned, FieldInfo.dropWarning?_of_plan?_none planned]
      exact restPerm.cons warning
    · -- planned, and warned about at conversion if at all
      simp only [List.filterMap_cons, planned, FieldInfo.planWarning?_of_plan?_some planned,
        FieldInfo.dropWarning?_of_plan?_some planned]
      rcases plan.convertWarning? with _ | warning
      · exact restPerm
      · exact List.perm_middle.trans (restPerm.cons warning)

/-- The fields that no stage warns about are the planned fields that convert. -/
theorem filterMap_kept_names (model : ModelPlan) (names : ClassNames) :
    ∀ fields : List FieldInfo,
      (fields.filterMap (FieldInfo.plan? names)).filterMap FieldPlan.keptName? =
        (fields.filter fun info => (info.dropWarning? model names).isNone).map (·.name)
  | [] => rfl
  | info :: rest => by
    have restNames := filterMap_kept_names model names rest
    rcases planned : info.plan? names with _ | plan
    · obtain ⟨warning, warned⟩ := Option.isSome_iff_exists.mp
        ((@FieldInfo.planWarning?_isSome_iff model names info).mpr planned)
      simp only [List.filterMap_cons, planned, List.filter_cons,
        FieldInfo.dropWarning?_of_plan?_none planned, warned, Option.isNone_some, Bool.false_eq_true,
        if_false]
      exact restNames
    · simp only [List.filterMap_cons, planned, List.filter_cons,
        FieldInfo.dropWarning?_of_plan?_some planned]
      by_cases converts : plan.convertWarning?.isNone = true
      · simp only [FieldPlan.keptName?, converts, if_true, List.map_cons, FieldInfo.plan?_info planned,
          restNames]
      · simp only [FieldPlan.keptName?, converts, Bool.false_eq_true, if_false, restNames]

/-! ## Conversion -/

/-- A relation kept by planning that stores a reference has a builder for it. -/
theorem FieldInfo.plan?_referable {names : ClassNames} {info : FieldInfo} {plan : FieldPlan}
    (planned : info.plan? names = some plan) : plan.Referable := by
  cases plan with
  | data kept => trivial
  | relation kept target targetClassName =>
    obtain ⟨rfl, -, -, clear⟩ := FieldInfo.plan?_eq_relation planned
    intro single
    obtain ⟨kind, related, -, -, referable⟩ := (FieldInfo.missingReference?_eq_none single).mp clear
    rw [FieldInfo.asReference_internalType, related]
    exact referable

theorem buildDataColumn_log (info : FieldInfo) (log : List LogEntry) :
    ∃ column, (buildDataColumn info).run.run log =
        (.ok column, log ++ warnEntries info.columnWarning?.toList) ∧
      column.isSome = info.columnWarning?.isNone := by
  unfold buildDataColumn FieldInfo.columnWarning?
  rcases info.internalType.columnKind? with _ | kind
  · exact ⟨none, rfl, rfl⟩
  · refine ⟨some ((ColumnSpec.ofField kind info).bare.withModifiers info.modifiers), ?_, rfl⟩
    simp only [Option.toList_none, warnEntries_nil, List.append_nil]
    rfl

theorem renderDataField_log (info : FieldInfo) (log : List LogEntry) :
    ∃ source, (Code.renderDataField info).run.run log =
        (.ok source, log ++ warnEntries info.columnWarning?.toList) ∧
      source.isSome = info.columnWarning?.isNone := by
  obtain ⟨column, source, after, columnRun, sourceRun, sameKind⟩ := dataField_inStep info log
  obtain ⟨column', columnRun', converts⟩ := buildDataColumn_log info log
  rw [columnRun', Prod.mk.injEq, Except.ok.injEq] at columnRun
  obtain ⟨rfl, rfl⟩ := columnRun
  exact ⟨source, sourceRun, sameKind ▸ converts⟩

theorem buildRelation_log {info : FieldInfo} (targetClassName : String)
    (referable : info.manyToMany = false → info.asReference.internalType.columnKind?.isSome)
    (log : List LogEntry) :
    ∃ built, (buildRelation info targetClassName).run.run log =
        (.ok built, log ++ warnEntries (info.relationWarning? targetClassName).toList) ∧
      built.isSome = (info.relationWarning? targetClassName).isNone := by
  unfold buildRelation FieldInfo.relationWarning?
  rcases described : info.describeRelation targetClassName with _ | d
  · exact ⟨none, rfl, rfl⟩
  · simp only [Option.toList_none, warnEntries_nil, List.append_nil]
    by_cases many : d.kind == .manyToMany
    · simp only [many, if_true]
      exact ⟨_, rfl, rfl⟩
    · -- the relation stores a reference, which has a builder
      have single := (FieldInfo.describeRelation_eq_some described).2.2 (by simpa using many)
      obtain ⟨kind, builds⟩ := Option.isSome_iff_exists.mp (referable single)
      have columnRun : (buildReferenceColumn info).run.run log =
          (.ok (ColumnSpec.ofField kind info.asReference).bare, log) := by
        unfold buildReferenceColumn
        simp only [builds]
        rfl
      simp only [many, Bool.false_eq_true, if_false]
      rw [Run.run_bind_of_ok columnRun]
      exact ⟨_, rfl, rfl⟩

theorem renderRelationField_log {info : FieldInfo} (targetClassName : String)
    (referable : info.manyToMany = false → info.asReference.internalType.columnKind?.isSome)
    (log : List LogEntry) :
    ∃ rendered, (Code.renderRelationField info targetClassName).run.run log =
        (.ok rendered, log ++ warnEntries (info.relationWarning? targetClassName).toList) ∧
      rendered.isSome = (info.relationWarning? targetClassName).isNone := by
  obtain ⟨built, rendered, after, builtRun, renderedRun, sameShape⟩ :=
    relationField_inStep info targetClassName log
  obtain ⟨built', builtRun', converts⟩ := buildRelation_log targetClassName referable log
  rw [builtRun', Prod.mk.injEq, Except.ok.injEq] at builtRun
  obtain ⟨rfl, rfl⟩ := builtRun
  refine ⟨rendered, renderedRun, ?_⟩
  rw [← converts]
  rcases built' with _ | ⟨d, column⟩ <;> rcases rendered with _ | ⟨d', source⟩
  · rfl
  · cases sameShape
  · cases sameShape
  · rfl

/-! ## Steps and folds -/

/-- A fold whose every step succeeds, logs the warning of its element if it has one,
and adds the element's name, if it has one, to a list of names, logs the warnings of
all the elements in order and adds all their names. -/
theorem Run.foldlM_warns {α β γ : Type} {f : γ → α → Run γ} (warning : α → Option String)
    (names : γ → List β) (named : α → Option β) :
    ∀ xs : List α, (∀ x ∈ xs, ∀ a log, ∃ a', (f a x).run.run log =
        (.ok a', log ++ warnEntries (warning x).toList) ∧ names a' = names a ++ (named x).toList) →
      ∀ a log, ∃ a', (xs.foldlM f a).run.run log =
        (.ok a', log ++ warnEntries (xs.filterMap warning)) ∧ names a' = names a ++ xs.filterMap named
  | [], _, a, log => ⟨a, by simp only [List.filterMap_nil, warnEntries_nil, List.append_nil]; rfl,
      by simp⟩
  | x :: rest, step, a, log => by
    obtain ⟨a', first, firstNamed⟩ := step x List.mem_cons_self a log
    obtain ⟨a'', restRun, restNamed⟩ := Run.foldlM_warns warning names named rest
      (fun y member => step y (List.mem_cons_of_mem x member)) a' _
    refine ⟨a'', ?_, ?_⟩
    · rw [List.foldlM_cons, Run.run_bind_of_ok first, restRun, List.append_assoc, ← warnEntries_append,
        List.filterMap_cons]
      cases warning x <;> rfl
    · rw [restNamed, firstNamed, List.append_assoc, List.filterMap_cons]
      cases named x <;> rfl

theorem addColumn_log (parts : TableParts) {plan : FieldPlan} (referable : plan.Referable)
    (log : List LogEntry) :
    ∃ parts', (addColumn parts plan).run.run log =
        (.ok parts', log ++ warnEntries plan.convertWarning?.toList) ∧
      parts'.fieldNames = parts.fieldNames ++ plan.keptName?.toList := by
  -- the field's name is added exactly when its conversion gives something
  cases plan with
  | data info =>
    obtain ⟨column, columnRun, converts⟩ := buildDataColumn_log info log
    unfold addColumn
    rw [Run.run_bind_of_ok columnRun]
    rcases column with _ | column <;>
      exact ⟨_, rfl, by simp [FieldPlan.keptName?, FieldPlan.convertWarning?, ← converts, FieldPlan.info]⟩
  | relation info target targetClassName =>
    obtain ⟨built, builtRun, converts⟩ := buildRelation_log targetClassName referable log
    unfold addColumn
    rw [Run.run_bind_of_ok builtRun]
    rcases built with _ | ⟨d, column⟩ <;>
      exact ⟨_, rfl, by simp [FieldPlan.keptName?, FieldPlan.convertWarning?, ← converts, FieldPlan.info]⟩

theorem addField_log (schema : Schema) (appLabel : String) (parts : Code.SourceParts)
    {plan : FieldPlan} (referable : plan.Referable) (log : List LogEntry) :
    ∃ parts', (Code.addField schema appLabel parts plan).run.run log =
        (.ok parts', log ++ warnEntries plan.convertWarning?.toList) ∧
      parts'.fieldNames = parts.fieldNames ++ plan.keptName?.toList := by
  cases plan with
  | data info =>
    obtain ⟨source, sourceRun, converts⟩ := renderDataField_log info log
    unfold Code.addField
    rw [Run.run_bind_of_ok sourceRun]
    rcases source with _ | source <;>
      exact ⟨_, rfl, by simp [FieldPlan.keptName?, FieldPlan.convertWarning?, ← converts, FieldPlan.info]⟩
  | relation info target targetClassName =>
    obtain ⟨rendered, renderedRun, converts⟩ := renderRelationField_log targetClassName referable log
    unfold Code.addField
    rw [Run.run_bind_of_ok renderedRun]
    rcases rendered with _ | ⟨d, _ | source⟩ <;>
      exact ⟨_, rfl, by simp [FieldPlan.keptName?, FieldPlan.convertWarning?, ← converts, FieldPlan.info]⟩

theorem retainUniqueTogether_log (model : ModelPlan) (columns : List String) (log : List LogEntry) :
    (retainUniqueTogether model columns).run.run log =
      (.ok (model.retainedGroups columns), log ++ warnEntries (model.groupWarnings columns)) := by
  -- each group is kept, or dropped with its warning
  have step : ∀ group ∈ model.info.uniqueTogether, ∀ (kept : List (List String)) log,
      ∃ kept', (do
          let missing := group.filter fun name => !columns.contains name
          if group.isEmpty || !missing.isEmpty then
            Run.warn (model.label ++ ": dropping unique constraint (" ++ ", ".intercalate group ++
              "); missing fields: " ++ ", ".intercalate missing)
            return kept
          else return kept ++ [group] : Run (List (List String))).run.run log =
        (.ok kept', log ++ warnEntries (model.groupWarning? columns group).toList) ∧
      id kept' = id kept ++ (Option.guard (fun group => (model.groupWarning? columns group).isNone)
        group).toList := by
    intro group _ kept log
    by_cases dropped : group.isEmpty || !(group.filter fun name => !columns.contains name).isEmpty
    · refine ⟨kept, by simp only [dropped, if_true, ModelPlan.groupWarning?]; rfl, ?_⟩
      simp only [Option.guard, ModelPlan.groupWarning?, dropped, if_true, Option.isNone_some,
        Bool.false_eq_true, if_false, Option.toList_none, List.append_nil]
    · rw [Bool.not_eq_true] at dropped
      refine ⟨kept ++ [group], ?_, ?_⟩
      · simp only [dropped, Bool.false_eq_true, if_false, ModelPlan.groupWarning?, Option.toList_none,
          warnEntries_nil, List.append_nil]
        rfl
      · simp only [Option.guard, ModelPlan.groupWarning?, dropped, Bool.false_eq_true, if_false,
          Option.isNone_none, if_true, Option.toList_some, id]
  obtain ⟨kept, run, named⟩ := Run.foldlM_warns _ id _ model.info.uniqueTogether step [] log
  simp only [id, List.nil_append, List.filterMap_eq_filter] at named
  rw [retainUniqueTogether, run, named]
  rfl

/-! ## One model -/

/-- What one call of a renderer logs and keeps for a planned model, given whether it
rendered the model and, if it did, the field names and the column keys it rendered:
the warnings about fields, then, for a rendered model, those about the uniqueness
groups it drops; and a rendered model keeps exactly the fields it does not warn
about. -/
structure ModelPlan.WarnsOnce (model : ModelPlan) (names : ClassNames) (log after : List LogEntry)
    (rendered : Option (List String × List String)) : Prop where
  unrendered : rendered = none → after = log ++ warnEntries (model.fieldWarnings names)
  rendered : ∀ fieldNames columns, rendered = some (fieldNames, columns) →
    after = log ++ warnEntries (model.fieldWarnings names ++ model.groupWarnings columns) ∧
      fieldNames = (model.keptFields names).map (·.name)

theorem planned_referable (model : ModelPlan) (names : ClassNames) :
    ∀ plan ∈ model.info.fields.filterMap (FieldInfo.plan? names), plan.Referable := by
  intro plan member
  obtain ⟨info, -, planned⟩ := List.mem_filterMap.mp member
  exact FieldInfo.plan?_referable planned

theorem buildModel_log (appName : String) (names : ClassNames) (model : ModelPlan)
    (log : List LogEntry) :
    ∃ built after, (buildModel appName names model).run.run log = (.ok built, after) ∧
      model.WarnsOnce names log after (built.map fun b => (b.fieldNames, b.table.columns.keys)) ∧
      ∀ b, built = some b → b.table.uniqueGroups = model.retainedGroups b.table.columns.keys := by
  obtain ⟨parts, foldRun, partsNamed⟩ := Run.foldlM_warns FieldPlan.convertWarning?
    TableParts.fieldNames FieldPlan.keptName? _
    (fun plan member parts log => addColumn_log parts (planned_referable model names plan member) log)
    {} (log ++ warnEntries (model.info.fields.filterMap (FieldInfo.planWarning? model names)))
  have kept : parts.fieldNames = (model.keptFields names).map (·.name) := by
    rw [partsNamed, filterMap_kept_names]
    rfl
  unfold buildModel
  rw [Run.run_bind_of_ok (planFields_log model names log), Run.run_bind_of_ok foldRun]
  by_cases empty : parts.dataFields == 0
  · refine ⟨none, _, by simp only [empty, if_true]; rfl, ⟨fun _ => ?_, fun _ _ absurd => by cases absurd⟩,
    fun _ absurd => by cases absurd⟩
    rw [ModelPlan.fieldWarnings, warnEntries_append, List.append_assoc]
  · simp only [empty, if_false, Bool.false_eq_true]
    rw [Run.run_bind_of_ok (retainUniqueTogether_log model parts.columns.keys _)]
    refine ⟨some _, _, rfl, ⟨(fun absurd => by cases absurd), fun fieldNames columns rendered => ?_⟩,
      fun b rendered => ?_⟩
    · simp only [Option.map_some, Option.some.injEq, Prod.mk.injEq] at rendered
      obtain ⟨rfl, rfl⟩ := rendered
      refine ⟨?_, kept⟩
      -- naming the columns keeps their keys
      simp only [Keyed.keys, List.map_map, Function.comp_def, ModelPlan.fieldWarnings,
        warnEntries_append, List.append_assoc]
    · cases rendered
      simp only [Keyed.keys, List.map_map, Function.comp_def]

theorem renderModel_log (schema : Schema) (appName : String) (names : ClassNames) (model : ModelPlan)
    (log : List LogEntry) :
    ∃ source after, (Code.renderModel schema appName names model).run.run log = (.ok source, after) ∧
      ∃ rendered, model.WarnsOnce names log after rendered ∧ (source = none ↔ rendered = none) ∧
        ∀ s, source = some s → ∃ parts, s = Code.declareModel appName model parts
          (model.retainedGroups parts.columns) ∧ rendered = some (s.fieldNames, parts.columns) := by
  obtain ⟨parts, foldRun, partsNamed⟩ := Run.foldlM_warns FieldPlan.convertWarning?
    Code.SourceParts.fieldNames FieldPlan.keptName? _
    (fun plan member parts log => addField_log schema model.info.appLabel parts
      (planned_referable model names plan member) log)
    { imports := [Code.pgImport "pgTable"] }
    (log ++ warnEntries (model.info.fields.filterMap (FieldInfo.planWarning? model names)))
  have kept : parts.fieldNames = (model.keptFields names).map (·.name) := by
    rw [partsNamed, filterMap_kept_names]
    rfl
  have partsRun : (Code.renderParts schema names model).run.run log =
      (.ok parts, log ++ warnEntries (model.fieldWarnings names)) := by
    rw [Code.renderParts, Run.run_bind_of_ok (planFields_log model names log), foldRun,
      ModelPlan.fieldWarnings, warnEntries_append, List.append_assoc]
  unfold Code.renderModel
  rw [Run.run_bind_of_ok partsRun]
  by_cases empty : parts.dataFields == 0
  · exact ⟨none, _, by simp only [empty, if_true]; rfl, none,
      ⟨fun _ => rfl, (fun _ _ absurd => by cases absurd)⟩, by simp, fun _ absurd => by cases absurd⟩
  · simp only [empty, if_false, Bool.false_eq_true]
    rw [Run.run_bind_of_ok (retainUniqueTogether_log model parts.columns _)]
    refine ⟨some _, _, rfl, some (parts.fieldNames, parts.columns),
      ⟨(fun absurd => by cases absurd), fun fieldNames columns rendered => ?_⟩, by simp,
      fun s rendered => ?_⟩
    · simp only [Option.some.injEq, Prod.mk.injEq] at rendered
      obtain ⟨rfl, rfl⟩ := rendered
      exact ⟨by rw [warnEntries_append, List.append_assoc], kept⟩
    · cases rendered
      exact ⟨parts, rfl, rfl⟩

/-! ## Both renderers -/

/-- Every drop is warned exactly once.  Each described field of a planned model is
dropped with one warning, at planning or at conversion, or kept with none, and a
relation kept by planning that stores a reference has a builder for it, so the
integer fallback is never taken.  One call of the table builder or of the text
renderer never fails; it logs the warnings about fields, planning's first, and,
when it renders the model, one warning for each uniqueness group it drops given the
columns it made, and nothing else; a rendered model keeps exactly the fields it
does not warn about, and the groups it does not warn about.  A model it does not
render gets no warning for the fields it kept. -/
theorem renderers_warn_once_per_drop (schema : Schema) (appName : String) (names : ClassNames)
    (model : ModelPlan) (log : List LogEntry) :
    (model.fieldWarnings names).Perm (model.info.fields.filterMap (FieldInfo.dropWarning? model names)) ∧
    (∀ info ∈ model.info.fields, ∀ plan, info.plan? names = some plan → plan.Referable) ∧
    (∃ built after, (buildModel appName names model).run.run log = (.ok built, after) ∧
      model.WarnsOnce names log after (built.map fun b => (b.fieldNames, b.table.columns.keys)) ∧
      ∀ b, built = some b → b.table.uniqueGroups = model.retainedGroups b.table.columns.keys) ∧
    ∃ source after, (Code.renderModel schema appName names model).run.run log = (.ok source, after) ∧
      ∃ rendered, model.WarnsOnce names log after rendered ∧ (source = none ↔ rendered = none) ∧
        ∀ s, source = some s → ∃ parts, s = Code.declareModel appName model parts
          (model.retainedGroups parts.columns) ∧ rendered = some (s.fieldNames, parts.columns) :=
  ⟨filterMap_warnings_perm model names model.info.fields,
    fun _ _ _ planned => FieldInfo.plan?_referable planned,
    buildModel_log appName names model log, renderModel_log schema appName names model log⟩

/-- `a.M`, whose only field is a one-to-one primary key to `a.C`. -/
def linkOnlyManifest : Manifest :=
  { defaultAutoField := "BigAutoField", enums := []
    models := [{ app := "a", name := "C", fields := [{ name := "v", kind := "IntegerField" }] },
      { app := "a", name := "M"
        fields := [{ name := "c", kind := "OneToOneField", relatedTo := some "a.C", primaryKey := some true }] }] }

theorem renderers_warn_once_on_link :
    ∃ schema plan, Schema.build linkOnlyManifest = .ok schema ∧ schema.plan {} = .ok plan ∧
      plan.models.map (·.label) = ["a.C", "a.M"] ∧
      ∀ model ∈ plan.models,
        (model.fieldWarnings plan.classNames).Perm
          (model.info.fields.filterMap (FieldInfo.dropWarning? model plan.classNames)) ∧
        (∀ info ∈ model.info.fields, ∀ fieldPlan, info.plan? plan.classNames = some fieldPlan →
          fieldPlan.Referable) ∧
        (∃ built after, (buildModel "mirror" plan.classNames model).run.run [] = (.ok built, after) ∧
          model.WarnsOnce plan.classNames [] after (built.map fun b => (b.fieldNames, b.table.columns.keys)) ∧
          ∀ b, built = some b → b.table.uniqueGroups = model.retainedGroups b.table.columns.keys) ∧
        ∃ source after, (Code.renderModel schema "mirror" plan.classNames model).run.run [] =
            (.ok source, after) ∧
          ∃ rendered, model.WarnsOnce plan.classNames [] after rendered ∧ (source = none ↔ rendered = none) ∧
            ∀ s, source = some s → ∃ parts, s = Code.declareModel "mirror" model parts
              (model.retainedGroups parts.columns) ∧ rendered = some (s.fieldNames, parts.columns) :=
  ⟨_, _, rfl, rfl, by decide +kernel,
    fun model _ => renderers_warn_once_per_drop _ "mirror" _ model []⟩

/-- The one-to-one field `c` of `a.M` is kept, so no warning names it; but `a.M` has no
data column and is not rendered, so `c` is in no result, and neither renderer logs
anything about either model. -/
theorem kept_relation_unwarned_when_unrendered :
    ∃ schema plan, Schema.build linkOnlyManifest = .ok schema ∧ schema.plan {} = .ok plan ∧
      plan.models.map (fun model => (model.label, (model.keptFields plan.classNames).map (·.name))) =
        [("a.C", ["id", "v"]), ("a.M", ["c"])] ∧
      plan.models.map (fun model =>
        ((buildModel "mirror" plan.classNames model).run.run []).1.toOption.map Option.isSome) =
        [some true, some false] ∧
      plan.models.map (fun model =>
        ((Code.renderModel schema "mirror" plan.classNames model).run.run []).1.toOption.map Option.isSome) =
        [some true, some false] ∧
      plan.models.map (fun model =>
        ((buildModel "mirror" plan.classNames model).run.run []).2.map (·.message)) = [[], []] ∧
      plan.models.map (fun model =>
        ((Code.renderModel schema "mirror" plan.classNames model).run.run []).2.map (·.message)) = [[], []] :=
  ⟨_, _, rfl, rfl, by decide +kernel, by decide +kernel, by decide +kernel, by decide +kernel,
    by decide +kernel⟩

end ModelTables
