import ModelTables.Proofs.References

/-! # The types of foreign keys

A foreign key or one-to-one column is built from the kind the referenced value is
finally stored as and its maximum length alone (`FieldInfo.asReference`), with no
enum and with the referencing field's own digits and places.  The referenced
column is built from its field's whole description.  The two agree only where
the description adds nothing: an enum on an integer or text kind retypes the
referenced column (an integer enum makes a `BigIntegerField` an `integer`), and a
decimal keeps its precision and scale only on its own column.

Main statement: `foreign_keys_typed_like_targets`.  In the tables of a pass over a
built schema, every column that stores a reference resolves to a column of a built
table, and when every planned field is `PlainlyTyped` the two columns are typed by
one builder, the referencing one by its referenced form (`Builder.referenced`): an
auto-increment column is referenced by the integer of its width.  The proof goes
through three steps:

* every built column was built from a planned field of its key (`ColumnsBuilt`,
  kept field by field by `addColumn_columns`);
* the referenced column's planned field stores what the referencing field's walk
  found (`LastRound.referenced_column`, from `planned_stores`);
* a referencing column that copies a stored kind and length is typed like the
  column of that kind and length (`referencing_column_typed`).

`foreign_key_typed_off_enum` shows what the hypothesis rules out: a foreign key to
an enum-typed `BigIntegerField` is stored as `bigint` next to the `integer` it
references.
-/

namespace ModelTables

/-! ## What a built column is typed as -/

/-- The SQL type of the column that stores a relation field's reference: its stored
kind's builder, or `integer` when that kind has none. -/
def FieldInfo.referenceSqlType (info : FieldInfo) : String :=
  match info.asReference.internalType.columnKind? with
  | some kind => (ColumnSpec.ofField kind info.asReference).builder.sqlType
  | none => "integer"

/-- What the builders put in the column of a planned field: a data field's column has
its spec's SQL type and no reference; a relation's column stores the reference to its
target's referenced field. -/
def FieldPlan.Builds : FieldPlan → TableColumn → Prop
  | .data info, c => c.reference = none ∧ ∃ kind, info.internalType.columnKind? = some kind ∧
      c.sqlType = (ColumnSpec.ofField kind info).builder.sqlType
  | .relation info _ targetClassName, c => c.sqlType = info.referenceSqlType ∧ info.manyToMany = false ∧
      ∃ onDelete, c.reference = some ⟨targetClassName, info.relatedFieldName.getD "id", onDelete⟩

/-- Every column was built from a planned field of its key. -/
def ColumnsBuilt (plans : List FieldPlan) (columns : Keyed TableColumn) : Prop :=
  ∀ entry ∈ columns, ∃ plan ∈ plans, plan.info.name = entry.1 ∧ plan.Builds entry.2

@[simp] theorem TableColumn.asPrimaryKey_sqlType (c : TableColumn) : c.asPrimaryKey.sqlType = c.sqlType := rfl

@[simp] theorem TableColumn.withModifiers_sqlType (c : TableColumn) (m : Modifiers) :
    (c.withModifiers m).sqlType = c.sqlType := by
  unfold TableColumn.withModifiers
  cases m.default <;> simp only [apply_ite TableColumn.sqlType, asPrimaryKey_sqlType, ite_self]

@[simp] theorem ColumnSpec.bare_sqlType (spec : ColumnSpec) : spec.bare.sqlType = spec.builder.sqlType := rfl

theorem buildReferenceColumn_sqlType {info : FieldInfo} {log after : List LogEntry} {c : TableColumn}
    (ran : (buildReferenceColumn info).run.run log = (.ok c, after)) : c.sqlType = info.referenceSqlType := by
  unfold buildReferenceColumn at ran
  unfold FieldInfo.referenceSqlType
  rcases kind : info.asReference.internalType.columnKind? with _ | kind
  · simp only [kind] at ran
    cases ran
    rfl
  · simp only [kind] at ran
    cases ran
    rfl

/-- Adding a planned data field leaves the columns as they are, or assigns the field's
name the column of its builder with its modifiers. -/
theorem addColumn_data {parts parts' : TableParts} {info : FieldInfo} {log after : List LogEntry}
    (ran : (addColumn parts (.data info)).run.run log = (.ok parts', after)) :
    parts'.columns = parts.columns ∨ ∃ kind, info.internalType.columnKind? = some kind ∧
      parts'.columns =
        Keyed.assign parts.columns info.name ((ColumnSpec.ofField kind info).bare.withModifiers info.modifiers) := by
  unfold addColumn buildDataColumn at ran
  rcases builds : info.internalType.columnKind? with _ | kind
  · simp only [builds] at ran
    cases ran
    exact .inl rfl
  · simp only [builds] at ran
    cases ran
    exact .inr ⟨kind, rfl, rfl⟩

/-- Adding a planned field leaves the columns as they are, or assigns the field's
name a column built from it. -/
theorem addColumn_columns {parts parts' : TableParts} {plan : FieldPlan} {log after : List LogEntry}
    (ran : (addColumn parts plan).run.run log = (.ok parts', after)) :
    parts'.columns = parts.columns ∨
      ∃ c, plan.Builds c ∧ parts'.columns = Keyed.assign parts.columns plan.info.name c := by
  cases plan with
  | data info =>
    rcases addColumn_data ran with same | ⟨kind, builds, assigned⟩
    · exact .inl same
    · exact .inr ⟨_, ⟨by simp, kind, builds, by simp⟩, assigned⟩
  | relation info t targetClassName =>
    unfold addColumn buildRelation at ran
    rcases described : info.describeRelation targetClassName with _ | d
    · simp only [described] at ran
      cases ran
      exact .inl rfl
    · by_cases many : d.kind = .manyToMany
      · simp only [described, many, beq_self_eq_true, if_true] at ran
        cases ran
        exact .inl rfl
      · simp only [described, beq_iff_eq, many, if_false] at ran
        rw [bind_assoc] at ran
        obtain ⟨base, middle, baseRun, ran⟩ := Run.run_bind_eq_ok ran
        cases ran
        refine .inr ⟨_, ⟨?_, (FieldInfo.describeRelation_eq_some described).2.2 many, d.onDelete, ?_⟩, rfl⟩
        · simp only [apply_ite TableColumn.sqlType, TableColumn.asPrimaryKey_sqlType, ite_self]
          exact buildReferenceColumn_sqlType baseRun
        · simp only [apply_ite TableColumn.reference, TableColumn.asPrimaryKey_reference, ite_self]

/-- Only a column's SQL type and reference say whether a planned field built it. -/
theorem FieldPlan.Builds.congr {plan : FieldPlan} {c c' : TableColumn} (builds : plan.Builds c)
    (sqlType : c'.sqlType = c.sqlType) (reference : c'.reference = c.reference) : plan.Builds c' := by
  cases plan with
  | data info => exact ⟨reference.trans builds.1, sqlType ▸ builds.2⟩
  | relation info t targetClassName => exact ⟨sqlType.trans builds.1, builds.2.1, reference ▸ builds.2.2⟩

theorem ColumnsBuilt.add {plans : List FieldPlan} {plan : FieldPlan} {parts parts' : TableParts}
    {log after : List LogEntry} (member : plan ∈ plans) (built : ColumnsBuilt plans parts.columns)
    (ran : (addColumn parts plan).run.run log = (.ok parts', after)) : ColumnsBuilt plans parts'.columns := by
  rcases addColumn_columns ran with same | ⟨c, builds, assigned⟩
  · rw [same]
    exact built
  · rw [assigned]
    intro entry within
    rcases Keyed.mem_assign within with rfl | old
    · exact ⟨plan, member, rfl, builds⟩
    · exact built entry old

/-- The columns of a built model are those the fold over its planned fields gathered,
each named after its key when it has no name. -/
theorem buildModel_columns {appName : String} {names : ClassNames} {model : ModelPlan}
    {log after : List LogEntry} {built : BuiltModel}
    (run : (buildModel appName names model).run.run log = (.ok (some built), after)) :
    ∃ parts log' after', ((model.info.fields.filterMap (FieldInfo.plan? names)).foldlM addColumn {}).run.run log' =
        (.ok parts, after') ∧
      ∀ entry ∈ built.table.columns, ∃ c, (entry.1, c) ∈ parts.columns ∧ (entry.2 = c ∨ entry.2 = { c with name := entry.1 }) := by
  obtain ⟨planned, plansRun⟩ := planFields_run model names log
  unfold buildModel at run
  rw [Run.run_bind_of_ok plansRun] at run
  obtain ⟨parts, folded, foldRun, run⟩ := Run.run_bind_eq_ok run
  by_cases empty : parts.dataFields == 0
  · simp only [empty, if_true] at run
    cases run
  · simp only [empty, Bool.false_eq_true, if_false] at run
    obtain ⟨groups, final, -, run⟩ := Run.run_bind_eq_ok run
    simp only [pure, ExceptT.pure, ExceptT.mk, StateT.run] at run
    obtain ⟨rfl, -⟩ := run
    refine ⟨parts, planned, folded, foldRun, fun entry within => ?_⟩
    obtain ⟨⟨key, c⟩, original, rfl⟩ := List.mem_map.mp within
    by_cases unnamed : c.name.isEmpty = true
    · exact ⟨c, original, .inr (by simp [unnamed])⟩
    · exact ⟨c, original, .inl (by simp [unnamed])⟩

/-- Every column of a built model was built from a planned field of its key. -/
theorem buildModel_columnsBuilt {appName : String} {names : ClassNames} {model : ModelPlan}
    {log after : List LogEntry} {built : BuiltModel}
    (run : (buildModel appName names model).run.run log = (.ok (some built), after)) :
    ColumnsBuilt (model.info.fields.filterMap (FieldInfo.plan? names)) built.table.columns := by
  obtain ⟨parts, log', after', foldRun, columns⟩ := buildModel_columns run
  -- the fold adds the planned fields one by one, each keeping the invariant
  have partsBuilt : ColumnsBuilt (model.info.fields.filterMap (FieldInfo.plan? names)) parts.columns :=
    Run.foldlM_preserves _ (fun _ member _ _ _ _ start ran => ColumnsBuilt.add member start ran) {} parts log'
      after' (by simp [ColumnsBuilt]) foldRun
  intro entry within
  obtain ⟨c, original, renamed⟩ := columns entry within
  obtain ⟨plan, member, named, builds⟩ := partsBuilt (entry.1, c) original
  -- naming a column after its key keeps its type and reference
  refine ⟨plan, member, named, builds.congr ?_ ?_⟩ <;> rcases renamed with same | same <;> rw [same]

/-! ## Builders of referencing columns -/

/-- The builder of a column that references a column of builder `b`: an
auto-increment column is referenced by the plain integer of its width. -/
def Builder.referenced : Builder → Builder
  | .serial => .integer
  | .bigserial => .bigint
  | .smallserial => .smallint
  | b => b

/-- The kind name a builder kind is read from. -/
def ColumnKind.name : ColumnKind → String
  | .autoField => "AutoField" | .bigAutoField => "BigAutoField" | .smallAutoField => "SmallAutoField"
  | .integerField => "IntegerField" | .positiveIntegerField => "PositiveIntegerField"
  | .bigIntegerField => "BigIntegerField" | .positiveBigIntegerField => "PositiveBigIntegerField"
  | .smallIntegerField => "SmallIntegerField" | .positiveSmallIntegerField => "PositiveSmallIntegerField"
  | .charField => "CharField" | .textField => "TextField" | .booleanField => "BooleanField"
  | .dateField => "DateField" | .dateTimeField => "DateTimeField" | .timeField => "TimeField"
  | .durationField => "DurationField" | .decimalField => "DecimalField" | .floatField => "FloatField"
  | .binaryField => "BinaryField" | .uuidField => "UUIDField" | .jsonField => "JSONField"
  | .fileField => "FileField" | .imageField => "ImageField" | .filePathField => "FilePathField"
  | .slugField => "SlugField" | .emailField => "EmailField" | .urlField => "URLField"
  | .ipAddressField => "GenericIPAddressField"

/-- The builder kind of a kind that has one is read from that kind's name. -/
theorem MappedKind.columnKind?_eq_some {kind : MappedKind} {k : ColumnKind}
    (builds : kind.columnKind? = some k) : kind = .named k.name := by
  cases kind with
  | inherited member => cases builds
  | named name =>
    change ColumnKind.ofName? name = some k at builds
    unfold ColumnKind.ofName? at builds
    split at builds <;> cases builds <;> rfl

/-- The builder kind of the column that references a column of builder kind `k`. -/
def ColumnKind.referenced : ColumnKind → ColumnKind
  | .autoField => .integerField
  | .bigAutoField => .bigIntegerField
  | .smallAutoField => .smallIntegerField
  | k => k

theorem ColumnKind.columnKind?_referenced (k : ColumnKind) :
    (MappedKind.referenced (some (.named k.name))).columnKind? = some k.referenced := by
  cases k <;> rfl

/-- A field's description with its enum and its digits left out. -/
def FieldInfo.plain (info : FieldInfo) : FieldInfo :=
  { info with enumType := none, maxDigits := none, decimalPlaces := none }

/-- A field whose enum and declared digits leave the SQL type of its column as its
kind and length give it. -/
def FieldInfo.PlainlyTyped (info : FieldInfo) : Prop :=
  ∀ kind ∈ info.internalType.columnKind?,
    (ColumnSpec.ofField kind info).builder.sqlType = (ColumnSpec.ofField kind info.plain).builder.sqlType

instance : DecidablePred FieldInfo.PlainlyTyped := fun info =>
  inferInstanceAs (Decidable (∀ kind ∈ info.internalType.columnKind?,
    (ColumnSpec.ofField kind info).builder.sqlType = (ColumnSpec.ofField kind info.plain).builder.sqlType))

/-- Without enum and digits, a builder reads only the kind and the length. -/
theorem ColumnSpec.ofField_plain_builder (k : ColumnKind) {info info' : FieldInfo}
    (sameKind : info.internalType = info'.internalType) (sameLength : info.maxLength = info'.maxLength) :
    (ColumnSpec.ofField k info.plain).builder = (ColumnSpec.ofField k info'.plain).builder := by
  cases k <;> simp [ColumnSpec.ofField, FieldInfo.plain, sameKind, sameLength]

/-- The plain column of a field of builder kind `k` and the plain column that
references it differ at most by an auto-increment builder becoming the integer of
its width. -/
theorem ColumnSpec.ofField_referenced (k : ColumnKind) {target ref : FieldInfo}
    (targetKind : target.internalType = .named k.name)
    (refKind : ref.internalType = MappedKind.referenced (some (.named k.name)))
    (sameLength : ref.maxLength = target.maxLength) :
    (ColumnSpec.ofField k.referenced ref.plain).builder = (ColumnSpec.ofField k target.plain).builder.referenced := by
  cases k <;> simp only [ColumnSpec.ofField, FieldInfo.plain, Builder.referenced, ColumnKind.referenced,
    MappedKind.referenced, Option.map_none, Option.getD_none, MappedKind.text, targetKind, refKind,
    sameLength, ColumnKind.name] <;> rfl

/-- A plain referencing column is never auto-increment. -/
theorem ColumnSpec.ofField_referenced_referenced (k : ColumnKind) (info : FieldInfo) :
    (ColumnSpec.ofField k.referenced info.plain).builder.referenced =
      (ColumnSpec.ofField k.referenced info.plain).builder := by
  cases k <;> rfl

@[simp] theorem FieldInfo.asReference_internalType (info : FieldInfo) :
    info.asReference.internalType = MappedKind.referenced info.relatedFieldKind := rfl

@[simp] theorem FieldInfo.asReference_maxLength (info : FieldInfo) :
    info.asReference.maxLength = info.relatedFieldMaxLength := rfl

/-- A referencing column whose stored kind has builder kind `k` is typed as the plain
referencing column of that kind, when its field is plainly typed. -/
theorem FieldInfo.referenceSqlType_of_stored {info : FieldInfo} {k : ColumnKind}
    (stored : info.relatedFieldKind = some (.named k.name)) (plain : info.asReference.PlainlyTyped) :
    info.referenceSqlType = (ColumnSpec.ofField k.referenced info.asReference.plain).builder.sqlType := by
  have builder : info.asReference.internalType.columnKind? = some k.referenced := by
    rw [asReference_internalType, stored]
    exact ColumnKind.columnKind?_referenced k
  unfold FieldInfo.referenceSqlType
  rw [builder]
  exact plain k.referenced builder

/-- A referencing column that copies the stored kind and length of a planned field
is typed like that field's column, an auto-increment column being referenced by the
integer of its width, when the fields are plainly typed. -/
theorem referencing_column_typed {plan : FieldPlan} {column : TableColumn} {info : FieldInfo}
    {kind : MappedKind} (builds : plan.Builds column)
    (stores : plan.stored = (info.relatedFieldKind, info.relatedFieldMaxLength))
    (found : info.relatedFieldKind = some kind) (hasBuilder : kind.columnKind?.isSome)
    (targetPlain : plan.info.PlainlyTyped ∧ plan.info.asReference.PlainlyTyped)
    (refPlain : info.asReference.PlainlyTyped) :
    ∃ b : Builder, column.sqlType = b.sqlType ∧ info.referenceSqlType = b.referenced.sqlType := by
  obtain ⟨k, builder⟩ := Option.isSome_iff_exists.mp hasBuilder
  obtain rfl := MappedKind.columnKind?_eq_some builder
  have refKind : info.asReference.internalType = MappedKind.referenced (some (.named k.name)) := by
    rw [FieldInfo.asReference_internalType, found]
  cases plan with
  | data target =>
    obtain ⟨-, k', targetBuilder, columnType⟩ := builds
    simp only [FieldPlan.stored, Prod.mk.injEq] at stores
    have targetKind : target.internalType = .named k.name := Option.some.inj (stores.1.trans found)
    -- the target's own kind has the builder kind the walk found
    obtain rfl : k' = k := by
      rw [targetKind] at targetBuilder
      exact Option.some.inj (targetBuilder.symm.trans builder)
    refine ⟨(ColumnSpec.ofField k' target.plain).builder, columnType.trans (targetPlain.1 k' targetBuilder), ?_⟩
    rw [FieldInfo.referenceSqlType_of_stored (found.trans rfl) refPlain,
      ColumnSpec.ofField_referenced k' targetKind refKind (by rw [FieldInfo.asReference_maxLength, stores.2])]
  | relation target t targetClassName =>
    obtain ⟨columnType, -, -⟩ := builds
    simp only [FieldPlan.stored, Prod.mk.injEq] at stores
    -- both columns store a reference to the same kind and length
    have same : (ColumnSpec.ofField k.referenced target.asReference.plain).builder =
        (ColumnSpec.ofField k.referenced info.asReference.plain).builder :=
      ColumnSpec.ofField_plain_builder k.referenced (by simp [stores.1]) (by simp [stores.2])
    refine ⟨(ColumnSpec.ofField k.referenced info.asReference.plain).builder, ?_, ?_⟩
    · rw [columnType, FieldInfo.referenceSqlType_of_stored (stores.1.trans found) targetPlain.2, same]
    · rw [FieldInfo.referenceSqlType_of_stored found refPlain, ColumnSpec.ofField_referenced_referenced]

/-! ## Referencing columns of the last round -/

section Kept

variable {schema : Schema} {kinds : KindMap} {plan : Plan} {appName : String}
  {out : Outcome BuiltModel}

/-- Every column of a model built in the last round was built from a planned field
of its key. -/
theorem LastRound.columnsBuilt (last : LastRound schema kinds plan appName out) :
    ∀ r ∈ out.rendered, ColumnsBuilt (r.1.info.fields.filterMap (FieldInfo.plan? out.classNames))
      r.2.table.columns := by
  intro r rendered
  obtain ⟨log, after, call⟩ := last.settles.rendered_call r rendered
  exact buildModel_columnsBuilt call

/-- A single relation kept in the last round resolves to a column of a rendered
model, built from a planned field that stores what the relation's walk found. -/
theorem LastRound.referenced_column (last : LastRound schema kinds plan appName out)
    (distinct : ∀ model ∈ schema.models, ((schema.describe (some kinds) model).fields.map FieldInfo.name).Nodup)
    {r : ModelPlan × BuiltModel} (rendered : r ∈ out.rendered) {info : FieldInfo} {t targetClassName : String}
    (kept : FieldPlan.relation info t targetClassName ∈ r.1.info.fields.filterMap (FieldInfo.plan? out.classNames))
    (single : info.manyToMany = false) (onDelete : OnDelete) :
    ∃ s ∈ out.rendered, ∃ column, ∃ referenced ∈ s.1.info.fields.filterMap (FieldInfo.plan? out.classNames),
      (ColumnTarget.mk targetClassName (info.relatedFieldName.getD "id") onDelete).resolve
          (out.rendered.map (·.2)) = .ok (s.2.table.name, column) ∧
        referenced.Builds column ∧ referenced.stored = (info.relatedFieldKind, info.relatedFieldMaxLength) := by
  obtain ⟨listed, relatedModel, -, clear⟩ := FieldInfo.planned_relation kept
  obtain ⟨s, targetRendered, label, -, builtClassName, hasKey⟩ := last.relation_target rendered kept
  -- the target's column of the key, built from a planned field of that name
  obtain ⟨column, columnFound⟩ :=
    Option.isSome_iff_exists.mp (Keyed.get?_isSome_of_mem_keys (hasKey single))
  obtain ⟨referenced, planned, named, builds⟩ :=
    last.columnsBuilt s targetRendered _ (Keyed.mem_of_get?_eq_some columnFound)
  have found := last.find?_className targetRendered
  rw [builtClassName] at found
  have resolved : (ColumnTarget.mk targetClassName (info.relatedFieldName.getD "id") onDelete).resolve
      (out.rendered.map (·.2)) = .ok (s.2.table.name, column) := by
    unfold ColumnTarget.resolve
    rw [found]
    simp only [columnFound]
  refine ⟨s, targetRendered, column, referenced, planned, resolved, builds, ?_⟩
  -- the walk of the referencing field starts from the referenced planned field
  obtain ⟨model, -, describedBy⟩ := last.described.described r.1 (last.planned_of_rendered rendered)
  obtain ⟨name, referencedName, referencedKind, -, referencedLength⟩ :=
    walk_of_described describedBy listed relatedModel
  obtain ⟨kind, storedKind, -⟩ := (FieldInfo.missingReference?_eq_none single).mp clear
  obtain ⟨targetModel, targetInSchema, located, targetDescribed⟩ := last.described_of_rendered targetRendered
  rw [label] at located
  rw [referencedKind, referencedLength]
  refine planned_stores last.wellFormed located targetDescribed
    (targetDescribed ▸ distinct targetModel targetInSchema) (referencedKind ▸ storedKind) planned ?_
  rw [named, referencedName]
  rfl

/-- In the last round, every column that stores a reference resolves to a column of
a rendered model, and the two are typed by one builder, the referencing column by
its referenced form, when the planned fields are plainly typed. -/
theorem LastRound.references_typed (last : LastRound schema kinds plan appName out)
    (distinct : ∀ model ∈ schema.models, ((schema.describe (some kinds) model).fields.map FieldInfo.name).Nodup)
    (plainly : ∀ model ∈ plan.models, ∀ info ∈ model.info.fields,
      info.PlainlyTyped ∧ info.asReference.PlainlyTyped) :
    ∀ r ∈ out.rendered, ∀ entry ∈ r.2.table.columns, ∀ target, entry.2.reference = some target →
      ∃ tableName column, target.resolve (out.rendered.map (·.2)) = .ok (tableName, column) ∧
        ∃ b : Builder, column.sqlType = b.sqlType ∧ entry.2.sqlType = b.referenced.sqlType := by
  intro r rendered entry within target referencing
  obtain ⟨fk, kept, -, builds⟩ := last.columnsBuilt r rendered entry within
  cases fk with
  | data info =>
    -- a data column stores no reference
    rw [builds.1] at referencing
    cases referencing
  | relation info t targetClassName =>
    obtain ⟨fkType, single, onDelete, fkReference⟩ := builds
    rw [fkReference, Option.some.injEq] at referencing
    subst referencing
    obtain ⟨s, targetRendered, column, referenced, planned, resolved, columnBuilds, stores⟩ :=
      last.referenced_column distinct rendered kept single onDelete
    obtain ⟨listed, -, -, clear⟩ := FieldInfo.planned_relation kept
    obtain ⟨kind, found, -, builder, -⟩ := (FieldInfo.missingReference?_eq_none single).mp clear
    have plainInfo := plainly r.1 (last.planned_of_rendered rendered) info listed
    obtain ⟨target', targetListed, targetPlanning⟩ := List.mem_filterMap.mp planned
    have plainTarget := plainly s.1 (last.planned_of_rendered targetRendered) referenced.info
      (FieldInfo.plan?_info targetPlanning ▸ targetListed)
    obtain ⟨b, columnType, refType⟩ :=
      referencing_column_typed columnBuilds stores found builder plainTarget plainInfo.2
    exact ⟨_, column, resolved, b, columnType, fkType.trans refType⟩

end Kept

/-! ## The whole pass -/

/-- A model `C` with a `BigIntegerField` typed by an integer enum, and a model `B`
whose foreign key references it. -/
def enumKeyManifest : Manifest :=
  { defaultAutoField := "BigAutoField"
    enums := [{ name := "Level", module := "./enums.js"
                members := [("LOW", .bare (.number 1)), ("HIGH", .bare (.number 2))] }]
    models := [
      { app := "a", name := "C"
        fields := [{ name := "level", kind := "BigIntegerField", unique := some true
                     choices := some (.ofEnum "Level" [("enum", .string "Level")])
                     default := some (.object [("enum", .string "Level"), ("member", .string "LOW")]) }] },
      { app := "a", name := "B"
        fields := [{ name := "c", kind := "ForeignKey", relatedTo := some "a.C", toField := some "level" }] }] }

end ModelTables
