import ModelTables.Table.Build
import ModelTables.Proofs.Fields
import ModelTables.Proofs.Keyed

/-! # What a built table holds

`buildModel` folds the planned fields of a model into a table.  Field by field
(`addColumn_built`, then `foldlM_addColumn_built`) it keeps `TableParts.Built`:

* every planned field that gets a column, and is not named `__proto__`, has its
  name among the column keys;
* a column that references another table was made from a planned relation field,
  which is not many-to-many, and points at its target's class name and referenced
  field;
* every relation descriptor was made from a planned relation field.

`buildModel_built` reads the same off a built model, with the planned fields
given by `FieldInfo.plan?` against the class names of the call.
-/

namespace ModelTables

/-- A planned field that gets a column: a data field whose kind has a builder, or a
relation whose descriptor is not many-to-many. -/
def FieldPlan.HasColumn : FieldPlan → Prop
  | .data info => info.internalType.columnKind?.isSome = true
  | .relation info _ targetClassName =>
    ∃ d, info.describeRelation targetClassName = some d ∧ d.kind ≠ .manyToMany

/-- A column reference made from the relation field `info` planned towards `targetClassName`. -/
def ColumnTarget.MadeBy (target : ColumnTarget) (info : FieldInfo) (targetClassName : String) : Prop :=
  target.className = targetClassName ∧ target.key = info.relatedFieldName.getD "id" ∧
    ∃ d, info.describeRelation targetClassName = some d ∧ d.kind ≠ .manyToMany

/-- Every planned field that gets a column, and is not named `__proto__`, has its
name among the keys. -/
def KeysPlanned (plans : List FieldPlan) (columns : Keyed TableColumn) : Prop :=
  ∀ plan ∈ plans, plan.info.name ≠ "__proto__" → plan.HasColumn → plan.info.name ∈ columns.keys

/-- Every column reference was made from a planned relation field. -/
def ReferencesPlanned (plans : List FieldPlan) (columns : Keyed TableColumn) : Prop :=
  ∀ entry ∈ columns, ∀ target, entry.2.reference = some target →
    ∃ info t targetClassName, FieldPlan.relation info t targetClassName ∈ plans ∧
      target.MadeBy info targetClassName

/-- Every relation descriptor was made from a planned relation field. -/
def RelationsPlanned (plans : List FieldPlan) (relations : Keyed RelationDescriptor) : Prop :=
  ∀ entry ∈ relations, ∃ info t targetClassName, FieldPlan.relation info t targetClassName ∈ plans ∧
    info.describeRelation targetClassName = some entry.2

/-- What building the planned fields `plans` into `parts` keeps. -/
structure TableParts.Built (plans : List FieldPlan) (parts : TableParts) : Prop where
  keys : KeysPlanned plans parts.columns
  references : ReferencesPlanned plans parts.columns
  relations : RelationsPlanned plans parts.relations

theorem TableParts.built_nil : TableParts.Built [] {} :=
  ⟨by simp [KeysPlanned], by simp [ReferencesPlanned], by simp [RelationsPlanned]⟩

/-! ## Columns and their references -/

@[simp] theorem TableColumn.asPrimaryKey_reference (c : TableColumn) :
    c.asPrimaryKey.reference = c.reference := rfl

@[simp] theorem TableColumn.withModifiers_reference (c : TableColumn) (m : Modifiers) :
    (c.withModifiers m).reference = c.reference := by
  -- each modifier and each kind of default leaves the reference alone
  unfold TableColumn.withModifiers
  cases m.default <;> simp only [apply_ite TableColumn.reference, asPrimaryKey_reference, ite_self]

@[simp] theorem ColumnSpec.bare_reference (spec : ColumnSpec) : spec.bare.reference = none := rfl

theorem buildReferenceColumn_run (info : FieldInfo) (log : List LogEntry) :
    ∃ column after, (buildReferenceColumn info).run.run log = (.ok column, after) := by
  unfold buildReferenceColumn
  dsimp only
  rcases info.asReference.internalType.columnKind? with _ | kind
  · exact ⟨_, _, rfl⟩
  · exact ⟨_, log, rfl⟩

/-! ## One field -/

section Step

variable {plans : List FieldPlan} {plan : FieldPlan}

theorem KeysPlanned.extend {columns : Keyed TableColumn} (keys : KeysPlanned plans columns)
    (noColumn : ¬ plan.HasColumn) : KeysPlanned (plans ++ [plan]) columns := by
  intro p member notProto hasColumn
  rcases List.mem_append.mp member with old | new
  · exact keys p old notProto hasColumn
  · rw [List.mem_singleton.mp new] at hasColumn
    exact absurd hasColumn noColumn

theorem KeysPlanned.assign {columns : Keyed TableColumn} (keys : KeysPlanned plans columns)
    (column : TableColumn) : KeysPlanned (plans ++ [plan]) (Keyed.assign columns plan.info.name column) := by
  intro p member notProto hasColumn
  rcases List.mem_append.mp member with old | new
  · exact Keyed.mem_keys_assign_of_mem _ _ _ (keys p old notProto hasColumn)
  · rw [List.mem_singleton.mp new] at notProto ⊢
    exact Keyed.mem_keys_assign_self _ notProto _

theorem ReferencesPlanned.extend {columns : Keyed TableColumn} (references : ReferencesPlanned plans columns) :
    ReferencesPlanned (plans ++ [plan]) columns := by
  intro entry member target referenced
  obtain ⟨info, t, targetClassName, planned, made⟩ := references entry member target referenced
  exact ⟨info, t, targetClassName, List.mem_append_left _ planned, made⟩

theorem ReferencesPlanned.assign {columns : Keyed TableColumn} (references : ReferencesPlanned plans columns)
    {key : String} {column : TableColumn}
    (made : ∀ target, column.reference = some target → ∃ info t targetClassName,
      FieldPlan.relation info t targetClassName ∈ plans ++ [plan] ∧ target.MadeBy info targetClassName) :
    ReferencesPlanned (plans ++ [plan]) (Keyed.assign columns key column) := by
  intro entry member target referenced
  rcases Keyed.mem_assign member with rfl | old
  · exact made target referenced
  · exact references.extend entry old target referenced

theorem RelationsPlanned.extend {relations : Keyed RelationDescriptor}
    (related : RelationsPlanned plans relations) : RelationsPlanned (plans ++ [plan]) relations := by
  intro entry member
  obtain ⟨info, t, targetClassName, planned, described⟩ := related entry member
  exact ⟨info, t, targetClassName, List.mem_append_left _ planned, described⟩

theorem RelationsPlanned.assign {relations : Keyed RelationDescriptor}
    (related : RelationsPlanned plans relations) {info : FieldInfo} {t targetClassName : String}
    {d : RelationDescriptor} (described : info.describeRelation targetClassName = some d) :
    RelationsPlanned (plans ++ [.relation info t targetClassName]) (Keyed.assign relations info.name d) := by
  intro entry member
  rcases Keyed.mem_assign member with rfl | old
  · exact ⟨info, t, targetClassName, List.mem_append_right _ (List.mem_singleton_self _), described⟩
  · exact related.extend entry old

/-- Adding one planned field keeps `Built`; adding never fails. -/
theorem addColumn_built {parts : TableParts} (built : parts.Built plans) (plan : FieldPlan)
    (log : List LogEntry) :
    ∃ parts' after, (addColumn parts plan).run.run log = (.ok parts', after) ∧
      parts'.Built (plans ++ [plan]) := by
  cases plan with
  | data info =>
    unfold addColumn buildDataColumn
    rcases kind : info.internalType.columnKind? with _ | kind
    · -- no builder: nothing is added
      refine ⟨parts, _, by simp only [kind]; rfl, built.keys.extend ?_, built.references.extend,
        built.relations.extend⟩
      simp [FieldPlan.HasColumn, kind]
    · refine ⟨?withData, log, ?run, ?built⟩
      case run =>
        simp only [kind]
        rfl
      case built =>
        exact ⟨built.keys.assign _, built.references.assign (by simp), built.relations.extend⟩
  | relation info t targetClassName =>
    unfold addColumn buildRelation
    rcases described : info.describeRelation targetClassName with _ | d
    · -- no descriptor: nothing is added
      refine ⟨parts, _, by simp only [described]; rfl, built.keys.extend ?_,
        built.references.extend, built.relations.extend⟩
      simp [FieldPlan.HasColumn, described]
    · by_cases many : d.kind = .manyToMany
      · -- a many-to-many relation is recorded without a column
        refine ⟨?withMany, log, ?run, ?built⟩
        case run =>
          simp only [described, many, beq_self_eq_true, if_true]
          rfl
        case built =>
          refine ⟨built.keys.extend ?_, built.references.extend, built.relations.assign described⟩
          simp [FieldPlan.HasColumn, described, many]
      · obtain ⟨base, after, baseRun⟩ := buildReferenceColumn_run info log
        refine ⟨?withReference, after, ?run, ?built⟩
        case run =>
          simp only [described, beq_iff_eq, many, if_false]
          rw [bind_assoc, Run.run_bind_of_ok baseRun]
          rfl
        case built =>
          refine ⟨built.keys.assign _, built.references.assign ?_, built.relations.assign described⟩
          intro target referenced
          refine ⟨info, t, targetClassName, List.mem_append_right _ (List.mem_singleton_self _), ?_⟩
          -- every modifier keeps the reference the relation puts in
          simp only [apply_ite TableColumn.reference, TableColumn.asPrimaryKey_reference, ite_self,
            Option.some.injEq] at referenced
          subst referenced
          exact ⟨rfl, rfl, d, described, many⟩

end Step

/-! ## A whole model -/

theorem foldlM_addColumn_built :
    ∀ (pending : List FieldPlan) {done : List FieldPlan} {parts : TableParts}, parts.Built done →
      ∀ log : List LogEntry, ∃ parts' after,
        (pending.foldlM addColumn parts).run.run log = (.ok parts', after) ∧ parts'.Built (done ++ pending)
  | [], done, parts, built, log => ⟨parts, log, rfl, by simpa using built⟩
  | plan :: rest, done, parts, built, log => by
    obtain ⟨middle, mid, first, builtMiddle⟩ := addColumn_built built plan log
    obtain ⟨final, after, restRun, builtFinal⟩ := foldlM_addColumn_built rest builtMiddle mid
    refine ⟨final, after, ?_, by simpa using builtFinal⟩
    rw [List.foldlM_cons, Run.run_bind_of_ok first, restRun]

/-- What a built model holds, read against the fields planned with the class names
of the call. -/
structure BuiltModel.Holds (model : ModelPlan) (names : ClassNames) (built : BuiltModel) : Prop where
  className : built.className = model.className
  keys : KeysPlanned (model.info.fields.filterMap (FieldInfo.plan? names)) built.table.columns
  references : ReferencesPlanned (model.info.fields.filterMap (FieldInfo.plan? names)) built.table.columns
  relations : RelationsPlanned (model.info.fields.filterMap (FieldInfo.plan? names)) built.metadata.relations

/-- Naming the columns of a table after their keys keeps the keys and the references. -/
theorem named_columns (columns : Keyed TableColumn) :
    Keyed.keys (columns.map fun (key, c) => (key, if c.name.isEmpty then { c with name := key } else c)) =
        columns.keys ∧
      ∀ entry ∈ columns.map (fun (key, c) => (key, if c.name.isEmpty then { c with name := key } else c)),
        ∃ original ∈ columns, entry.1 = original.1 ∧ entry.2.reference = original.2.reference := by
  refine ⟨by simp [Keyed.keys], fun entry member => ?_⟩
  obtain ⟨⟨key, c⟩, within, rfl⟩ := List.mem_map.mp member
  refine ⟨(key, c), within, rfl, ?_⟩
  by_cases unnamed : c.name.isEmpty = true <;> simp [unnamed]

theorem buildModel_holds {appName : String} {names : ClassNames} {model : ModelPlan}
    {log after : List LogEntry} {built : BuiltModel}
    (run : (buildModel appName names model).run.run log = (.ok (some built), after)) :
    built.Holds model names := by
  obtain ⟨planned, plansRun⟩ := planFields_run model names log
  obtain ⟨parts, folded, foldRun, partsBuilt⟩ :=
    foldlM_addColumn_built (model.info.fields.filterMap (FieldInfo.plan? names)) TableParts.built_nil planned
  unfold buildModel at run
  rw [Run.run_bind_of_ok plansRun, Run.run_bind_of_ok foldRun] at run
  by_cases empty : parts.dataFields == 0
  · simp only [empty, if_true] at run
    cases run
  · simp only [empty, Bool.false_eq_true, if_false] at run
    rcases retained : (retainUniqueTogether model parts.columns.keys).run.run folded with
      ⟨_ | groups, final⟩
    · rw [Run.run_bind_of_error retained] at run
      cases run
    · rw [Run.run_bind_of_ok retained] at run
      simp only [List.nil_append] at partsBuilt
      obtain ⟨sameKeys, sameReferences⟩ := named_columns parts.columns
      simp only [pure, ExceptT.pure, ExceptT.mk, StateT.run] at run
      obtain ⟨rfl, -⟩ := run
      refine ⟨rfl, ?keys, ?references, partsBuilt.relations⟩
      case keys =>
        intro plan member notProto hasColumn
        exact sameKeys ▸ partsBuilt.keys plan member notProto hasColumn
      case references =>
        intro entry member target referenced
        obtain ⟨original, within, -, sameReference⟩ := sameReferences entry member
        exact partsBuilt.references original within target (sameReference ▸ referenced)

end ModelTables
