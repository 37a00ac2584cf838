import ModelTables.Table.Build
import ModelTables.Code.Model
import ModelTables.Proofs.Rounds
import ModelTables.Proofs.Fields
import ModelTables.Proofs.Keyed
import ModelTables.Schema.Build

/-! # Built tables and declaration texts agree

The table builder (`buildModel`) and the text renderer (`Code.renderModel`) share
the field planning and the kept uniqueness groups; what they do with each kept
field differs only in the value they make of it.  So, field by field, they log the
same warnings and keep the same fields, and a whole pass with either renders the
same models in the same rounds.

The exception is a field named `__proto__`.  The builder assigns columns and
relations into a record, where that name replaces the record's prototype and adds
no entry; the text lists it like any other field.  A uniqueness group naming it is
then kept by the text and dropped, with a warning, by the builder.

Main statements:

* `renderers_agree`: for every plan whose models have no field named `__proto__`,
  both passes log the same, fail the same models for the same reasons, end with
  the same class names after the same rounds, and render the same models in the
  same order, each to a table and a declaration that agree (`Declares`).
* `renderers_disagree_on_proto`: a field `__proto__` in a uniqueness group makes
  the two passes log differently.
-/

namespace ModelTables

/-! ## One field -/

theorem dataField_inStep (info : FieldInfo) (log : List LogEntry) :
    ∃ column source after, (buildDataColumn info).run.run log = (.ok column, after) ∧
      (Code.renderDataField info).run.run log = (.ok source, after) ∧ column.isSome = source.isSome := by
  unfold buildDataColumn Code.renderDataField
  rcases info.internalType.columnKind? with _ | kind
  · exact ⟨none, none, _, rfl, rfl, rfl⟩
  · exact ⟨_, _, log, rfl, rfl, rfl⟩

theorem referenceColumn_inStep (info : FieldInfo) (log : List LogEntry) :
    ∃ column source after, (buildReferenceColumn info).run.run log = (.ok column, after) ∧
      (Code.referenceSource info).run.run log = (.ok source, after) := by
  unfold buildReferenceColumn Code.referenceSource
  dsimp only
  rcases info.asReference.internalType.columnKind? with _ | kind
  · exact ⟨_, _, _, rfl, rfl⟩
  · exact ⟨_, _, log, rfl, rfl⟩

/-- The column a relation stores its reference in: the referenced field's own column,
or an integer column when the referenced kind has no converter. -/
theorem Code.referenceSource_eq_ok {info : FieldInfo} {log after : List LogEntry} {base : Code.FieldSource}
    (referenced : (Code.referenceSource info).run.run log = (.ok base, after)) :
    (∃ kind, base = Code.columnSource (ColumnSpec.ofField kind info.asReference)) ∨
      base = Code.builderCall "integer" info.column none := by
  unfold Code.referenceSource at referenced
  dsimp only at referenced
  split at referenced
  · cases referenced
    exact .inl ⟨_, rfl⟩
  · obtain ⟨-, middle, -, rest⟩ := Run.run_bind_eq_ok referenced
    cases rest
    exact .inr rfl

/-- A relation rendered with a column has a descriptor, and its column is the
reference column followed by the reference, the relation's flags and the import of
the column type the reference names. -/
theorem Code.renderRelationField_column {info : FieldInfo} {targetClassName : String}
    {log after : List LogEntry} {d : RelationDescriptor} {source : Code.FieldSource}
    (rendered : (Code.renderRelationField info targetClassName).run.run log =
      (.ok (some (d, some source)), after)) :
    info.describeRelation targetClassName = some d ∧ ∃ base middle,
      (Code.referenceSource info).run.run log = (.ok base, middle) ∧
      source = { base with
        expression := base.expression ++
          (".references((): AnyPgColumn => " ++ targetClassName ++ "." ++ d.references ++
            ", \x7b onDelete: " ++ Text.quote d.onDelete.text ++ " \x7d)") ++
          (if info.primaryKey then ".primaryKey()"
            else (if !info.null then ".notNull()" else "") ++
              (if d.kind == .oneToOne || info.unique then ".unique()" else ""))
        imports := base.imports ++ [{ module := "drizzle-orm/pg-core", name := "AnyPgColumn", typeOnly := true }] } := by
  unfold Code.renderRelationField at rendered
  split at rendered
  · obtain ⟨-, middle, -, rest⟩ := Run.run_bind_eq_ok rendered
    cases rest
  · next d' described =>
    split at rendered
    · cases rendered
    · obtain ⟨base, middle, referenced, rest⟩ := Run.run_bind_eq_ok rendered
      cases rest
      exact ⟨described, base, _, referenced, rfl⟩

theorem relationField_inStep (info : FieldInfo) (targetClassName : String) (log : List LogEntry) :
    ∃ built rendered after, (buildRelation info targetClassName).run.run log = (.ok built, after) ∧
      (Code.renderRelationField info targetClassName).run.run log = (.ok rendered, after) ∧
      built.map (fun r => (r.1, r.2.isSome)) = rendered.map (fun r => (r.1, r.2.isSome)) := by
  unfold buildRelation Code.renderRelationField
  rcases info.describeRelation targetClassName with _ | descriptor
  · exact ⟨none, none, _, rfl, rfl, rfl⟩
  · by_cases manyToMany : descriptor.kind == .manyToMany
    · simp only [manyToMany, if_true]
      exact ⟨some (descriptor, none), some (descriptor, none), log, rfl, rfl, rfl⟩
    · obtain ⟨column, source, after, columnRun, sourceRun⟩ := referenceColumn_inStep info log
      simp only [manyToMany, if_false, Bool.false_eq_true]
      refine ⟨?built, ?rendered, after, ?builtRun, ?renderedRun, ?same⟩
      case builtRun =>
        rw [Run.run_bind_of_ok columnRun]
        rfl
      case renderedRun =>
        rw [Run.run_bind_of_ok sourceRun]
        rfl
      case same => rfl

/-! ## The fields of one model -/

/-- What building and rendering the same fields accumulate alike: the field names,
the count of data fields, the column keys, and the relations, the rendered list
read as an object. -/
structure PartsAgree (built : TableParts) (rendered : Code.SourceParts) : Prop where
  fieldNames : built.fieldNames = rendered.fieldNames
  dataFields : built.dataFields = rendered.dataFields
  columns : ∀ key, key ∈ built.columns.keys ↔ key ∈ rendered.columns
  relations : built.relations = Keyed.ofPairs rendered.relations

theorem PartsAgree.start : PartsAgree {} { imports := [Code.pgImport "pgTable"] } :=
  ⟨rfl, rfl, fun _ => by simp [Keyed.keys], rfl⟩

/-- A column added under the same key on both sides keeps the column keys alike. -/
theorem PartsAgree.columns_assign {built : TableParts} {rendered : Code.SourceParts}
    (agree : PartsAgree built rendered) {name : String} (notProto : name ≠ "__proto__")
    (column : TableColumn) (key : String) :
    key ∈ (Keyed.assign built.columns name column).keys ↔ key ∈ rendered.columns ++ [name] := by
  rw [Keyed.assign_eq_set _ notProto, Keyed.mem_keys_set, agree.columns key, List.mem_append,
    List.mem_singleton]

theorem addColumn_addField (schema : Schema) (appLabel : String) (plan : FieldPlan)
    (notProto : plan.info.name ≠ "__proto__") (built : TableParts) (rendered : Code.SourceParts)
    (log : List LogEntry) (agree : PartsAgree built rendered) :
    ∃ built' rendered' after, (addColumn built plan).run.run log = (.ok built', after) ∧
      (Code.addField schema appLabel rendered plan).run.run log = (.ok rendered', after) ∧
      PartsAgree built' rendered' := by
  cases plan with
  | data info =>
    replace notProto : info.name ≠ "__proto__" := notProto
    obtain ⟨column, source, after, columnRun, sourceRun, sameKind⟩ := dataField_inStep info log
    unfold addColumn Code.addField
    rw [Run.run_bind_of_ok columnRun, Run.run_bind_of_ok sourceRun]
    rcases column with _ | column <;> rcases source with _ | source
    · -- no builder: the text only notes the skipped field
      exact ⟨_, _, after, rfl, rfl, agree.fieldNames, agree.dataFields, agree.columns, agree.relations⟩
    · cases sameKind
    · cases sameKind
    · refine ⟨_, _, after, rfl, rfl, ?_, ?_, fun key => ?_, agree.relations⟩
      · simp [agree.fieldNames]
      · simp [agree.dataFields]
      · exact agree.columns_assign notProto _ key
  | relation info target targetClassName =>
    replace notProto : info.name ≠ "__proto__" := notProto
    obtain ⟨builtRelation, renderedRelation, after, builtRun, renderedRun, sameShape⟩ :=
      relationField_inStep info targetClassName log
    unfold addColumn Code.addField
    rw [Run.run_bind_of_ok builtRun, Run.run_bind_of_ok renderedRun]
    rcases builtRelation with _ | ⟨descriptor, column⟩ <;>
      rcases renderedRelation with _ | ⟨descriptor', source⟩
    · exact ⟨_, _, after, rfl, rfl, agree⟩
    · cases sameShape
    · cases sameShape
    · -- the same descriptor, and a column on both sides or on neither
      simp only [Option.map_some, Option.some.injEq, Prod.mk.injEq] at sameShape
      obtain ⟨rfl, sameColumn⟩ := sameShape
      have relations : Keyed.assign built.relations info.name descriptor =
          Keyed.ofPairs (rendered.relations ++ [(info.name, descriptor)]) := by
        rw [Keyed.ofPairs_append, ← agree.relations, Keyed.assign_eq_set _ notProto]
      rcases column with _ | column <;> rcases source with _ | source
      · refine ⟨_, _, after, rfl, rfl, ?_, agree.dataFields, agree.columns, relations⟩
        simp [agree.fieldNames]
      · cases sameColumn
      · cases sameColumn
      · refine ⟨_, _, after, rfl, rfl, ?_, agree.dataFields, fun key => ?_, relations⟩
        · simp [agree.fieldNames]
        · exact agree.columns_assign notProto _ key

/-! ## One model -/

/-- A built table and a declaration text of the same model that agree: the same
class name, label and field names; and the text declares the model's table with the
uniqueness groups the table keeps, property keys that are exactly the table's column
keys, and the table's relations. -/
structure Declares (appName : String) (model : ModelPlan) (built : BuiltModel)
    (source : Code.ModelSource) : Prop where
  className : built.className = model.className ∧ source.className = model.className
  label : built.label = model.label ∧ source.label = model.label
  fieldNames : built.fieldNames = source.fieldNames
  declaration : ∃ parts groups, source = Code.declareModel appName model parts groups ∧
    built.table.name = model.info.dbTable ∧ built.metadata.table = model.info.dbTable ∧
    built.table.uniqueGroups = groups ∧ built.metadata.uniqueTogether = groups ∧
    (∀ key, key ∈ built.table.columns.keys ↔ key ∈ parts.columns) ∧
    built.metadata.relations = Keyed.ofPairs parts.relations

/-- A model none of whose described fields is named `__proto__`. -/
def ModelPlan.NoProtoField (model : ModelPlan) : Prop :=
  ∀ field ∈ model.info.fields, field.name ≠ "__proto__"

instance : DecidablePred ModelPlan.NoProtoField := fun model =>
  inferInstanceAs (Decidable (∀ field ∈ model.info.fields, field.name ≠ "__proto__"))

theorem buildModel_renderModel_inStep (schema : Schema) (appName : String) :
    Renderer.InStep ModelPlan.NoProtoField (Declares appName) (buildModel appName)
      (Code.renderModel schema appName) := by
  intro names model noProto log
  obtain ⟨middle, plansRun⟩ := planFields_run model names log
  have fitting : ∀ plan ∈ model.info.fields.filterMap (FieldInfo.plan? names),
      plan.info.name ≠ "__proto__" := by
    intro plan member
    obtain ⟨info, infoMember, planned⟩ := List.mem_filterMap.mp member
    rw [FieldInfo.plan?_info planned]
    exact noProto info infoMember
  obtain ⟨built, rendered, after, builtRun, renderedRun, agree⟩ :=
    Run.foldlM_lockstep _ (fun plan member => addColumn_addField schema model.info.appLabel plan
      (fitting plan member)) {} { imports := [Code.pgImport "pgTable"] } middle PartsAgree.start
  have partsRun : (Code.renderParts schema names model).run.run log = (.ok rendered, after) := by
    rw [Code.renderParts, Run.run_bind_of_ok plansRun, renderedRun]
  unfold buildModel Code.renderModel
  rw [Run.run_bind_of_ok plansRun, Run.run_bind_of_ok builtRun, Run.run_bind_of_ok partsRun,
    agree.dataFields]
  by_cases empty : rendered.dataFields == 0
  · simp only [empty, if_true]
    exact ⟨.ok none, .ok none, after, rfl, rfl, .empty⟩
  · simp only [empty, if_false, Bool.false_eq_true]
    -- the groups are kept by membership in the columns, which both sides share
    rw [retainUniqueTogether_congr model agree.columns]
    rcases retained : (retainUniqueTogether model rendered.columns).run.run after with
      ⟨_ | groups, final⟩
    · exact ⟨_, _, final, Run.run_bind_of_error retained, Run.run_bind_of_error retained, .failed rfl⟩
    · refine ⟨_, _, final, by rw [Run.run_bind_of_ok retained]; rfl,
        by rw [Run.run_bind_of_ok retained]; rfl, .rendered ⟨⟨rfl, rfl⟩, ⟨rfl, rfl⟩, agree.fieldNames,
          rendered, groups, rfl, rfl, rfl, rfl, rfl, fun key => ?_, agree.relations⟩⟩
      -- naming the columns keeps their keys
      rw [← agree.columns key]
      simp [Keyed.keys]

/-! ## A whole pass -/

/-- Over any plan whose models have no field named `__proto__`, the pass that builds
tables and the pass that renders declaration texts log the same warnings, fail the
same models for the same reasons, end with the same class names after the same
number of rounds, and render the same models in the same order, each to a table
and a text that agree. -/
theorem renderers_agree (schema : Schema) (appName : String) (plan : Plan)
    (noProto : ∀ model ∈ plan.models, model.NoProtoField) (log : List LogEntry) :
    ∃ built text after,
      (plan.render (buildModel appName)).run.run log = (.ok built, after) ∧
      (plan.render (Code.renderModel schema appName)).run.run log = (.ok text, after) ∧
      built.failed = text.failed ∧ built.classNames = text.classNames ∧ built.rounds = text.rounds ∧
      List.Forall₂ (fun b t => b.1 = t.1 ∧ Declares appName b.1 b.2 t.2) built.rendered text.rendered :=
  renderRounds_lockstep (buildModel_renderModel_inStep schema appName) _ _ log noProto

/-- One model of two text fields, the second alone in a uniqueness group. -/
def plainManifest : Manifest :=
  { defaultAutoField := "BigAutoField", enums := []
    models := [{ app := "a", name := "M", uniqueTogether := some [["b"]]
                 fields := [{ name := "c", kind := "CharField" }, { name := "b", kind := "CharField" }] }] }

theorem renderers_agree_on_plain :
    ∃ schema plan, Schema.build plainManifest = .ok schema ∧ schema.plan {} = .ok plan ∧
      (∀ model ∈ plan.models, model.NoProtoField) ∧
      ∃ built text after,
        (plan.render (buildModel "mirror")).run.run [] = (.ok built, after) ∧
        (plan.render (Code.renderModel schema "mirror")).run.run [] = (.ok text, after) ∧
        built.failed = text.failed ∧ built.classNames = text.classNames ∧ built.rounds = text.rounds ∧
        List.Forall₂ (fun b t => b.1 = t.1 ∧ Declares "mirror" b.1 b.2 t.2) built.rendered text.rendered := by
  refine ⟨_, _, rfl, rfl, ?noProto, ?agree⟩
  case noProto => decide
  case agree => exact renderers_agree _ "mirror" _ (by decide) []

/-- A field named `__proto__`, in a uniqueness group with another field. -/
def protoManifest : Manifest :=
  { defaultAutoField := "BigAutoField", enums := []
    models := [{ app := "a", name := "M", uniqueTogether := some [["__proto__", "b"], ["b"]]
                 fields := [{ name := "__proto__", kind := "CharField" }, { name := "b", kind := "CharField" }] }] }

/-- The builder finds no column `__proto__` and drops the group naming it; the
text declares the property and keeps the group. -/
theorem renderers_disagree_on_proto :
    ∃ schema plan, Schema.build protoManifest = .ok schema ∧ schema.plan {} = .ok plan ∧
      ((plan.render (buildModel "mirror")).run.run []).2.map (·.message) =
        ["a.M: dropping unique constraint (__proto__, b); missing fields: __proto__"] ∧
      ((plan.render (Code.renderModel schema "mirror")).run.run []).2 = [] :=
  ⟨_, _, rfl, rfl, by decide, by decide⟩

end ModelTables
