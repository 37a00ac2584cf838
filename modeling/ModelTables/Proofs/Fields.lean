import ModelTables.Plan.Fields
import ModelTables.Proofs.Run

/-! # Choosing the fields of a table, as a decision

`planFields` keeps or drops each described field by a decision that depends only
on the field and the class names; the warnings it logs are its only other effect.
`FieldInfo.plan?` is that decision: `planFields_run` says `planFields` takes it for
every field, in order, and never fails.  A relation is kept exactly when its target
has a class name and `missingReference?` finds nothing, that is when the walk to
the stored column found a kind with a builder and every model it passed has a
class name (`missingReference?_eq_none`).  `retainUniqueTogether` reads the columns
only through membership (`retainUniqueTogether_congr`).
-/

namespace ModelTables

/-- The plan `planField` makes of a field, without its warnings. -/
def FieldInfo.plan? (names : ClassNames) (info : FieldInfo) : Option FieldPlan :=
  if info.invalidReason?.isSome then none
  else match info.isRelation, info.relatedModel with
    | true, some target =>
      match names.get? target with
      | none => none
      | some targetClassName =>
        if (info.missingReference? names).isSome then none
        else some (.relation info target targetClassName)
    | _, _ => some (.data info)

theorem planField_run (model : ModelPlan) (names : ClassNames) (info : FieldInfo)
    (log : List LogEntry) :
    ∃ after, (planField model names info).run.run log = (.ok (info.plan? names), after) := by
  unfold planField FieldInfo.plan?
  rcases info.invalidReason? with _ | reason
  · simp only [Option.isSome_none]
    rcases info.isRelation <;> rcases info.relatedModel with _ | target
    · exact ⟨_, rfl⟩
    · exact ⟨_, rfl⟩
    · exact ⟨_, rfl⟩
    · rcases named : names.get? target with _ | targetClassName
      · exact ⟨_, by simp only [named]; rfl⟩
      · rcases info.missingReference? names with _ | missing
        · exact ⟨_, by simp only [named]; rfl⟩
        · exact ⟨_, by simp only [named]; rfl⟩
  · exact ⟨_, rfl⟩

theorem planFields_run (model : ModelPlan) (names : ClassNames) (log : List LogEntry) :
    ∃ after, (planFields model names).run.run log =
      (.ok (model.info.fields.filterMap (FieldInfo.plan? names)), after) := by
  have each : ∀ (fields : List FieldInfo) (log : List LogEntry), ∃ after,
      (fields.mapM (planField model names)).run.run log = (.ok (fields.map (FieldInfo.plan? names)), after) := by
    intro fields
    induction fields with
    | nil => exact fun log => ⟨log, rfl⟩
    | cons info rest ih =>
      intro log
      obtain ⟨middle, first⟩ := planField_run model names info log
      obtain ⟨after, restRun⟩ := ih middle
      refine ⟨after, ?_⟩
      rw [List.mapM_cons, Run.run_bind_of_ok first, Run.run_bind_of_ok restRun]
      rfl
  obtain ⟨after, fieldsRun⟩ := each model.info.fields log
  refine ⟨after, ?_⟩
  rw [planFields, Run.run_bind_of_ok fieldsRun, List.filterMap_map]
  rfl

/-- A planned field is the field it was planned from. -/
theorem FieldInfo.plan?_info {names : ClassNames} {info : FieldInfo} {plan : FieldPlan}
    (planned : info.plan? names = some plan) : plan.info = info := by
  unfold FieldInfo.plan? at planned
  split at planned
  · cases planned
  · split at planned
    · split at planned
      · cases planned
      · split at planned
        · cases planned
        · cases planned
          rfl
    · cases planned
      rfl

/-- What keeping a relation says about it. -/
theorem FieldInfo.plan?_eq_relation {names : ClassNames} {info kept : FieldInfo}
    {target targetClassName : String} (planned : info.plan? names = some (.relation kept target targetClassName)) :
    kept = info ∧ info.relatedModel = some target ∧ names.get? target = some targetClassName ∧
      info.missingReference? names = none := by
  unfold FieldInfo.plan? at planned
  split at planned
  · cases planned
  · split at planned
    · rename_i related
      split at planned
      · cases planned
      · rename_i named
        split at planned
        · cases planned
        · rename_i clear
          cases planned
          exact ⟨rfl, related, named, Option.not_isSome_iff_eq_none.mp clear⟩
    · cases planned

/-- A relation kept among the planned fields of a list is a member of the list, with
its target named and its referenced column found. -/
theorem FieldInfo.planned_relation {names : ClassNames} {fields : List FieldInfo} {info : FieldInfo}
    {target targetClassName : String}
    (kept : FieldPlan.relation info target targetClassName ∈ fields.filterMap (FieldInfo.plan? names)) :
    info ∈ fields ∧ info.relatedModel = some target ∧ names.get? target = some targetClassName ∧
      info.missingReference? names = none := by
  obtain ⟨info', listed, planning⟩ := List.mem_filterMap.mp kept
  obtain ⟨rfl, relatedModel, named, clear⟩ := FieldInfo.plan?_eq_relation planning
  exact ⟨listed, relatedModel, named, clear⟩

/-- A field kept as plain data is not a relation to a model. -/
theorem FieldInfo.plan?_eq_data {names : ClassNames} {info kept : FieldInfo}
    (planned : info.plan? names = some (.data kept)) :
    kept = info ∧ (info.isRelation = true → info.relatedModel = none) := by
  unfold FieldInfo.plan? at planned
  split at planned
  · cases planned
  · split at planned
    · split at planned
      · cases planned
      · split at planned
        · cases planned
        · cases planned
    · rename_i unrelated
      cases planned
      refine ⟨rfl, fun related => ?_⟩
      rcases model : info.relatedModel with _ | target
      · rfl
      · exact absurd model (unrelated target related)

theorem FieldInfo.plan?_of_plain {names : ClassNames} {info : FieldInfo}
    (plain : info.isRelation = false) (single : info.manyToMany = false) :
    info.plan? names = some (.data info) := by
  simp [FieldInfo.plan?, FieldInfo.invalidReason?, plain, single]

theorem FieldInfo.plan?_of_relation {names : ClassNames} {info : FieldInfo} {target targetClassName : String}
    (related : info.isRelation = true) (single : info.manyToMany = false)
    (relatedModel : info.relatedModel = some target) (named : names.get? target = some targetClassName)
    (found : info.missingReference? names = none) :
    info.plan? names = some (.relation info target targetClassName) := by
  simp [FieldInfo.plan?, FieldInfo.invalidReason?, related, single, relatedModel, named, found]

/-- A foreign key or one-to-one field finds its referenced column exactly when the
walk found a kind, every model the walk passed has a class name, and both that
kind and the kind storing a reference to it have a builder. -/
theorem FieldInfo.missingReference?_eq_none {names : ClassNames} {info : FieldInfo}
    (single : info.manyToMany = false) :
    info.missingReference? names = none ↔ ∃ kind, info.relatedFieldKind = some kind ∧
      (∀ label ∈ info.relatedFieldVia, (names.get? label).isSome) ∧
      kind.columnKind?.isSome ∧ (MappedKind.referenced (some kind)).columnKind?.isSome := by
  unfold FieldInfo.missingReference?
  simp only [single, Bool.false_eq_true, if_false]
  rcases info.relatedFieldKind with _ | kind
  · simp
  · rcases passed : info.relatedFieldVia.find? (fun label => (names.get? label).isNone) with _ | unmirrored
    · -- every model passed has a class name: only the kinds decide
      have mirrored : ∀ label ∈ info.relatedFieldVia, (names.get? label).isSome := by
        intro label member
        exact Option.isSome_iff_ne_none.mpr (by simpa using List.find?_eq_none.mp passed label member)
      simp only [ite_eq_right_iff, reduceCtorEq, imp_false, Bool.or_eq_true,
        Option.isNone_iff_eq_none, not_or, Option.some.injEq, exists_eq_left']
      simp only [← Option.isSome_iff_ne_none]
      exact ⟨fun kinds => ⟨mirrored, kinds⟩, fun found => found.2⟩
    · -- a model passed without a class name
      have unnamed := List.find?_some passed
      have within := List.mem_of_find?_eq_some passed
      simp only [reduceCtorEq, false_iff, not_exists, not_and, Option.some.injEq]
      intro _ _ mirrored
      have named := mirrored unmirrored within
      rw [Option.isNone_iff_eq_none.mp unnamed] at named
      cases named

theorem retainUniqueTogether_congr (model : ModelPlan) {columns columns' : List String}
    (same : ∀ name, name ∈ columns ↔ name ∈ columns') :
    retainUniqueTogether model columns = retainUniqueTogether model columns' := by
  have contains : ∀ name, columns.contains name = columns'.contains name := by
    intro name
    rw [Bool.eq_iff_iff, List.contains_iff_mem, List.contains_iff_mem]
    exact same name
  simp only [retainUniqueTogether, contains]

end ModelTables
