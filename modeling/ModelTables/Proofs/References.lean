import ModelTables.Proofs.Parity
import ModelTables.Proofs.Tables
import ModelTables.Proofs.Plan
import ModelTables.Proofs.Schema
import ModelTables.Proofs.Stored

/-! # Relations point at rendered tables

After the second pass over a plan of a built schema, every relation descriptor of
a built table names the class of a table that was built too, and a foreign key or
one-to-one relation names a column that table has; so every foreign key of every
built table resolves against the tables of the pass.

The target of a relation kept in the last round has a class name in that round, so
it was not dropped and was rendered too (`target_rendered`).  The referenced field
is the field its walk starts from (`Describes`, `storedField?_eq_some`): a field
that stores its value gets a column when its kind has a builder, which the
referencing field checked; a field that stores a reference makes the same walk one
step later (`resolveStored_of_relation`), so the referencing field's checks are its
own checks, and it gets a column as long as its kind still stores a reference
(`KindMap.KeepsReferences`).

Two things break this, and `relations_resolve` assumes neither:

* a kind map that sends `ForeignKey` or `OneToOneField` to a kind that stores no
  reference: the referencing side still reads the original kinds through the walk,
  the target drops the field (`references_dangle_when_kinds_remap`);
* a field named `__proto__`, which a built table cannot hold as a column.

The declaration texts of the same pass declare the same relations and keys
(`buildModel_renderModel_inStep`), so the guarantee holds of them as well.

Since the described fields of a built model are named apart
(`Schema.build_describedNames_nodup`), the planned field of the referenced name is
the one the walk starts from, and it stores what the walk found: the same kind and
length (`planned_stores`).
-/

namespace ModelTables

/-- A kind map that sends foreign keys and one-to-one fields to kinds that still
store a reference. -/
def KindMap.KeepsReferences (kinds : KindMap) : Prop :=
  ∀ kind, kind = "ForeignKey" ∨ kind = "OneToOneField" →
    mapKind (some kinds) kind = .named "ForeignKey" ∨ mapKind (some kinds) kind = .named "OneToOneField"

/-! ## The last round -/

section LastRound

variable {schema : Schema} {kinds : KindMap} {plan : Plan} {render : Renderer α} {out : Outcome α}

/-- A label with a class name after the pass is the label of a rendered model. -/
theorem target_rendered (described : plan.Described schema kinds) (settles : out.Settles plan render)
    {label className : String} (named : out.classNames.get? label = some className) :
    ∃ r ∈ out.rendered, r.1.label = label ∧ r.1.className = className := by
  obtain ⟨entry, found, rfl⟩ := Option.map_eq_some_iff.mp named
  have sameLabel : entry.1 = label := by simpa using List.find?_some found
  obtain ⟨lost, accounted, -, remaining⟩ := settles.accounted
  have kept := List.mem_of_find?_eq_some found
  rw [remaining, ClassNames.without, List.mem_filter, described.classNames] at kept
  obtain ⟨model, planned, rfl⟩ := List.mem_map.mp kept.1
  have notLost := kept.2
  -- the model of the entry was not dropped, since its identity is still named
  have notDropped : model ∉ lost := by
    intro dropped
    have identity : model.info.identity ∈ lost.map (·.info.identity) := List.mem_map_of_mem dropped
    rw [← described.labels model planned] at identity
    simp [identity] at notLost
  have rendered : model ∈ out.rendered.map (·.1) := by
    rcases List.mem_append.mp (accounted.symm.subset planned) with rendered | dropped
    · exact rendered
    · exact absurd dropped notDropped
  obtain ⟨r, member, rfl⟩ := List.mem_map.mp rendered
  exact ⟨r, member, sameLabel, rfl⟩

end LastRound

/-! ## The referenced field -/

/-- A descriptor names the class it was made for and the referenced field; one
that is not many-to-many comes from a field that is not. -/
theorem FieldInfo.describeRelation_eq_some {info : FieldInfo} {targetClassName : String}
    {d : RelationDescriptor} (described : info.describeRelation targetClassName = some d) :
    d.target = targetClassName ∧ d.references = info.relatedFieldName.getD "id" ∧
      (d.kind ≠ .manyToMany → info.manyToMany = false) := by
  unfold FieldInfo.describeRelation at described
  obtain ⟨kind, relationKind, rfl⟩ := Option.map_eq_some_iff.mp described
  refine ⟨rfl, rfl, fun single => ?_⟩
  unfold FieldInfo.relationKind? at relationKind
  by_cases many : info.manyToMany = true
  · simp only [many, if_true, Option.some.injEq] at relationKind
    exact absurd relationKind.symm single
  · simpa using many

/-- A field kept in its kind as a foreign key or a one-to-one field gets a
descriptor that is not many-to-many. -/
theorem FieldInfo.describeRelation_of_reference {info : FieldInfo} (single : info.manyToMany = false)
    (reference : info.internalType = .named "ForeignKey" ∨ info.internalType = .named "OneToOneField")
    (targetClassName : String) :
    ∃ d, info.describeRelation targetClassName = some d ∧ d.kind ≠ .manyToMany := by
  have foreignIsForeign : (MappedKind.named "ForeignKey" == .named "ForeignKey") = true := by decide
  have oneIsOne : (MappedKind.named "OneToOneField" == .named "OneToOneField") = true := by decide
  have oneIsNotForeign : (MappedKind.named "OneToOneField" == .named "ForeignKey") = false := by decide
  unfold FieldInfo.describeRelation FieldInfo.relationKind?
  rcases reference with foreign | oneToOne
  · simp [single, foreign, foreignIsForeign]
  · simp [single, oneToOne, oneIsOne, oneIsNotForeign]

/-- A walk that found a kind with a builder, storing a reference to which also has
a builder, through models that all have class names. -/
def Schema.Stored.Usable (names : ClassNames) (stored : Schema.Stored) : Prop :=
  ∃ kind, stored.kind = some kind ∧ (∀ label ∈ stored.via, (names.get? label).isSome) ∧
    kind.columnKind?.isSome ∧ (MappedKind.referenced (some kind)).columnKind?.isSome

/-- The described fields of a model of a built schema are named apart. -/
theorem Schema.build_describedNames_nodup {manifest : Manifest} {schema : Schema} (built : Schema.build manifest = .ok schema)
    (kinds : Option KindMap) :
    ∀ model ∈ schema.models, ((schema.describe kinds model).fields.map FieldInfo.name).Nodup := by
  intro model member
  obtain ⟨own, reverse, split, distinct, reversed⟩ := Schema.build_fields built model member
  have undescribed : reverse.filterMap (schema.describeField kinds) = [] :=
    List.filterMap_eq_nil_iff.mpr fun field within =>
      Schema.describeField_of_reverse (reversed field within).1 (reversed field within).2
  have kept : ((own.filterMap (schema.describeField kinds)).map FieldInfo.name).Sublist (own.map Field.name) :=
    filterMap_keys_sublist (fun _ _ described => (Schema.describeField_describes described).name) own
  simp only [Schema.describe, split, List.filterMap_append, undescribed, List.append_nil]
  exact distinct.sublist kept

section Referenced

variable {schema : Schema} {kinds : KindMap} {names : ClassNames}

/-- The field a usable walk starts from is planned with a column, in any planned
model described from the model of that label. -/
theorem referenced_planned (wellFormed : schema.WellFormed) (keeps : kinds.KeepsReferences)
    {target name : String} {model : Model} (located : schema.model? target = some model)
    {planned : ModelPlan} (describedBy : planned.info = schema.describe (some kinds) model)
    (usable : (schema.resolveStored (some kinds) target name).Usable names) :
    ∃ plan ∈ planned.info.fields.filterMap (FieldInfo.plan? names),
      plan.info.name = name ∧ plan.HasColumn := by
  obtain ⟨kind, found, mirrored, builds, referenceBuilds⟩ := usable
  -- the walk starts from a field of `model` with a column and that name
  obtain ⟨field, stored⟩ := Schema.walkStored_found found
  obtain ⟨model', located', member, named, concrete⟩ := Schema.storedField?_eq_some stored
  rw [located, Option.some.injEq] at located'
  subst located'
  have inSchema : model ∈ schema.models := List.mem_of_find?_eq_some located
  have sound := wellFormed.fields model inSchema field member
  have single := sound.single concrete
  obtain ⟨info, described⟩ : ∃ info, schema.describeField (some kinds) field = some info :=
    Schema.describeField_of_concrete field concrete single
  have describes := Schema.describeField_describes described
  have listed : info ∈ planned.info.fields := by
    rw [describedBy]
    exact List.mem_filterMap.mpr ⟨field, member, described⟩
  have infoSingle : info.manyToMany = false := describes.manyToMany.trans single
  rcases related : field.relation with _ | relation
  · -- a field that stores its value: its own kind is the kind the walk found
    have plain : info.isRelation = false := by rw [describes.isRelation, related]; rfl
    refine ⟨.data info, List.mem_filterMap.mpr ⟨info, listed, FieldInfo.plan?_of_plain plain infoSingle⟩,
      describes.name.trans named, ?_⟩
    rw [Schema.resolveStored_of_plain stored related, Option.some.injEq] at found
    show info.internalType.columnKind?.isSome = true
    rw [describes.internalType, found]
    exact builds
  · -- a field that stores a reference walks on as the referencing field did
    obtain ⟨nextFound, via⟩ := Schema.resolveStored_of_relation stored related single found
    obtain ⟨referencedName, referencedKind, referencedVia⟩ := describes.stored relation related
    rw [via] at mirrored
    obtain ⟨targetClassName, named'⟩ :=
      Option.isSome_iff_exists.mp (mirrored relation.model (List.mem_cons_self ..))
    have clear : info.missingReference? names = none := by
      refine (FieldInfo.missingReference?_eq_none infoSingle).mpr
        ⟨kind, referencedKind.trans nextFound, ?_, builds, referenceBuilds⟩
      intro label passed
      rw [referencedVia] at passed
      exact mirrored label (List.mem_cons_of_mem _ passed)
    have related' : info.isRelation = true := by rw [describes.isRelation, related]; rfl
    have relatedModel : info.relatedModel = some relation.model := by
      rw [describes.relatedModel, related]; rfl
    refine ⟨.relation info relation.model targetClassName, List.mem_filterMap.mpr ⟨info, listed,
      FieldInfo.plan?_of_relation related' infoSingle relatedModel named' clear⟩,
      describes.name.trans named, ?_⟩
    -- its kind still stores a reference, so it gets a descriptor with a column
    have storesReference := sound.referenceKind concrete (by rw [related]; rfl)
    have kept : info.internalType = .named "ForeignKey" ∨ info.internalType = .named "OneToOneField" := by
      rw [describes.internalType]
      exact keeps field.kind storesReference
    exact FieldInfo.describeRelation_of_reference infoSingle kept targetClassName

/-- A planned field of a model described from the schema is named as a field of the
schema is. -/
theorem planned_name_of_described {model : Model} {planned : ModelPlan}
    (describedBy : planned.info = schema.describe (some kinds) model) {plan : FieldPlan}
    (member : plan ∈ planned.info.fields.filterMap (FieldInfo.plan? names)) :
    ∃ field ∈ model.fields, plan.info.name = field.name := by
  obtain ⟨info, listed, planning⟩ := List.mem_filterMap.mp member
  rw [describedBy] at listed
  obtain ⟨field, within, described⟩ := List.mem_filterMap.mp listed
  rw [FieldInfo.plan?_info planning]
  exact ⟨field, within, (Schema.describeField_describes described).name⟩

/-- What a planned field stores: the kind and length of its own value, or of the
value its references end at. -/
def FieldPlan.stored : FieldPlan → Option MappedKind × Option Float
  | .data info => (some info.internalType, info.maxLength)
  | .relation info _ _ => (info.relatedFieldKind, info.relatedFieldMaxLength)

/-- A walk that finds a kind ends where the planned field of the name it starts from
stores its value, in a model whose described fields are named apart. -/
theorem planned_stores (wellFormed : schema.WellFormed) {target name : String} {model : Model}
    (located : schema.model? target = some model) {planned : ModelPlan}
    (describedBy : planned.info = schema.describe (some kinds) model)
    (distinct : (planned.info.fields.map FieldInfo.name).Nodup) {kind : MappedKind}
    (found : (schema.resolveStored (some kinds) target name).kind = some kind) {plan : FieldPlan}
    (member : plan ∈ planned.info.fields.filterMap (FieldInfo.plan? names)) (named : plan.info.name = name) :
    plan.stored = ((schema.resolveStored (some kinds) target name).kind,
      (schema.resolveStored (some kinds) target name).maxLength) := by
  obtain ⟨field, stored⟩ := Schema.walkStored_found found
  obtain ⟨model', located', within, fieldName, concrete⟩ := Schema.storedField?_eq_some stored
  rw [located, Option.some.injEq] at located'
  subst located'
  have single := (wellFormed.fields model (List.mem_of_find?_eq_some located) field within).single concrete
  obtain ⟨info, described⟩ : ∃ info, schema.describeField (some kinds) field = some info :=
    Schema.describeField_of_concrete field concrete single
  have describes := Schema.describeField_describes described
  have listed : info ∈ planned.info.fields := by
    rw [describedBy]
    exact List.mem_filterMap.mpr ⟨field, within, described⟩
  -- the planned field is the description of the field the walk starts from
  obtain ⟨info', listed', planning⟩ := List.mem_filterMap.mp member
  have sameName : info'.name = info.name := by
    rw [← FieldInfo.plan?_info planning, named, describes.name, fieldName]
  obtain rfl := List.inj_on_of_nodup_map distinct listed' listed sameName
  cases plan with
  | data i =>
    obtain ⟨rfl, plain⟩ := FieldInfo.plan?_eq_data planning
    have related : field.relation = none := by
      rcases related : field.relation with _ | relation
      · rfl
      · have unrelated := plain (by rw [describes.isRelation, related]; rfl)
        rw [describes.relatedModel, related] at unrelated
        cases unrelated
    rw [Schema.resolveStored_of_plain stored related, FieldPlan.stored, describes.internalType,
      (Schema.describeField_lengths described).1]
  | relation i t targetClassName =>
    obtain ⟨rfl, relatedModel, -, -⟩ := FieldInfo.plan?_eq_relation planning
    obtain ⟨relation, related⟩ : ∃ relation, field.relation = some relation := by
      rw [describes.relatedModel] at relatedModel
      obtain ⟨relation, related, -⟩ := Option.map_eq_some_iff.mp relatedModel
      exact ⟨relation, related⟩
    obtain ⟨-, kindStored, -⟩ := describes.stored relation related
    rw [Schema.resolveStored_step stored related single found, FieldPlan.stored, kindStored,
      (Schema.describeField_lengths described).2 relation related]

/-- A relation field of a model described from the schema refers to a field of its
target by name and carries that field's walk: the kind, the models passed and the
length. -/
theorem walk_of_described {model : Model} {planned : ModelPlan}
    (describedBy : planned.info = schema.describe (some kinds) model) {info : FieldInfo}
    (listed : info ∈ planned.info.fields) {target : String} (relatedModel : info.relatedModel = some target) :
    ∃ name, info.relatedFieldName = some name ∧
      info.relatedFieldKind = (schema.resolveStored (some kinds) target name).kind ∧
      info.relatedFieldVia = (schema.resolveStored (some kinds) target name).via ∧
      info.relatedFieldMaxLength = (schema.resolveStored (some kinds) target name).maxLength := by
  rw [describedBy] at listed
  obtain ⟨field, -, described⟩ := List.mem_filterMap.mp listed
  have describes := Schema.describeField_describes described
  obtain ⟨relation, related, rfl⟩ : ∃ relation, field.relation = some relation ∧ relation.model = target := by
    rw [describes.relatedModel] at relatedModel
    simpa using relatedModel
  obtain ⟨referencedName, referencedKind, referencedVia⟩ := describes.stored relation related
  exact ⟨_, referencedName, referencedKind, referencedVia,
    (Schema.describeField_lengths described).2 relation related⟩

end Referenced

/-! ## Relations kept in the last round -/

section Kept

variable {schema : Schema} {kinds : KindMap} {plan : Plan} {appName : String}
  {out : Outcome BuiltModel}

/-- What the last round of a built pass over a plan of a schema provides. -/
structure LastRound (schema : Schema) (kinds : KindMap) (plan : Plan) (appName : String)
    (out : Outcome BuiltModel) : Prop where
  wellFormed : schema.WellFormed
  keeps : kinds.KeepsReferences
  noProto : ∀ model ∈ schema.models, ∀ field ∈ model.fields, field.name ≠ "__proto__"
  described : plan.Described schema kinds
  settles : out.Settles plan (buildModel appName)
  holds : ∀ r ∈ out.rendered, r.2.Holds r.1 out.classNames

/-- A model rendered in the last round is a planned model. -/
theorem LastRound.planned_of_rendered (last : LastRound schema kinds plan appName out)
    {r : ModelPlan × BuiltModel} (rendered : r ∈ out.rendered) : r.1 ∈ plan.models :=
  last.settles.ordered.subset (List.mem_map_of_mem rendered)

/-- A model rendered in the last round is described from the model of its label. -/
theorem LastRound.described_of_rendered (last : LastRound schema kinds plan appName out)
    {s : ModelPlan × BuiltModel} (rendered : s ∈ out.rendered) :
    ∃ model ∈ schema.models, schema.model? s.1.label = some model ∧
      s.1.info = schema.describe (some kinds) model := by
  have planned := last.planned_of_rendered rendered
  obtain ⟨model, inSchema, describedBy⟩ := last.described.described s.1 planned
  have label : model.label = s.1.label := by
    rw [last.described.labels s.1 planned, describedBy]
    rfl
  exact ⟨model, inSchema, label ▸ last.wellFormed.model?_label inSchema, describedBy⟩

/-- A relation kept in the last round points at a rendered model of its target's
label, which has the referenced column unless the relation is many-to-many. -/
theorem LastRound.relation_target (last : LastRound schema kinds plan appName out)
    {r : ModelPlan × BuiltModel} (rendered : r ∈ out.rendered) {info : FieldInfo} {t targetClassName : String}
    (kept : FieldPlan.relation info t targetClassName ∈ r.1.info.fields.filterMap (FieldInfo.plan? out.classNames)) :
    ∃ s ∈ out.rendered, s.1.label = t ∧ s.1.className = targetClassName ∧ s.2.className = targetClassName ∧
      (info.manyToMany = false → info.relatedFieldName.getD "id" ∈ s.2.table.columns.keys) := by
  obtain ⟨listed, relatedModel, named, clear⟩ := FieldInfo.planned_relation kept
  obtain ⟨s, targetRendered, label, className⟩ := target_rendered last.described last.settles named
  refine ⟨s, targetRendered, label, className, (last.holds s targetRendered).className.trans className, ?_⟩
  intro single
  -- the walk of the referencing field, read off its description
  obtain ⟨model, -, describedBy⟩ := last.described.described r.1 (last.planned_of_rendered rendered)
  obtain ⟨name, referencedName, referencedKind, referencedVia, -⟩ :=
    walk_of_described describedBy listed relatedModel
  obtain ⟨kind, found, mirrored, builds, referenceBuilds⟩ :=
    (FieldInfo.missingReference?_eq_none single).mp clear
  have usable : (schema.resolveStored (some kinds) t name).Usable out.classNames :=
    ⟨kind, referencedKind ▸ found, referencedVia ▸ mirrored, builds, referenceBuilds⟩
  -- the target is described from the model of that label
  obtain ⟨targetModel, targetInSchema, located, targetDescribed⟩ := last.described_of_rendered targetRendered
  rw [label] at located
  obtain ⟨referenced, planned, sameName, hasColumn⟩ :=
    referenced_planned last.wellFormed last.keeps located targetDescribed usable
  obtain ⟨referencedField, referencedMember, fieldName⟩ := planned_name_of_described targetDescribed planned
  have notProto := last.noProto targetModel targetInSchema referencedField referencedMember
  rw [referencedName, Option.getD_some, ← sameName]
  exact (last.holds s targetRendered).keys referenced planned (fieldName ▸ notProto) hasColumn

/-- Every relation descriptor of a built model names the class of a built model,
which has the referenced column unless the relation is many-to-many. -/
theorem LastRound.relations_closed (last : LastRound schema kinds plan appName out) :
    ∀ r ∈ out.rendered, ∀ entry ∈ r.2.metadata.relations, ∃ t ∈ out.rendered,
      t.2.className = entry.2.target ∧
        (entry.2.kind ≠ .manyToMany → entry.2.references ∈ t.2.table.columns.keys) := by
  intro r rendered entry member
  obtain ⟨info, t, targetClassName, kept, described⟩ := (last.holds r rendered).relations entry member
  obtain ⟨target, references, single⟩ := FieldInfo.describeRelation_eq_some described
  obtain ⟨s, targetRendered, -, -, className, column⟩ := last.relation_target rendered kept
  refine ⟨s, targetRendered, className.trans target.symm, fun notMany => ?_⟩
  rw [references]
  exact column (single notMany)

/-- No two built models share a class name. -/
theorem LastRound.classNames_nodup (last : LastRound schema kinds plan appName out) :
    (out.rendered.map (·.2.className)).Nodup := by
  have same : out.rendered.map (·.2.className) = (out.rendered.map (·.1)).map (·.className) := by
    rw [List.map_map]
    exact List.map_congr_left fun r rendered => (last.holds r rendered).className
  rw [same]
  exact last.described.distinct.sublist (last.settles.ordered.map _)

/-- The search of the last round's tables by class name finds a rendered model's table. -/
theorem LastRound.find?_className (last : LastRound schema kinds plan appName out)
    {s : ModelPlan × BuiltModel} (rendered : s ∈ out.rendered) :
    (out.rendered.map (·.2)).find? (·.className == s.2.className) = some s.2 :=
  find?_of_nodup_keys (by simpa [Function.comp_def] using last.classNames_nodup) (List.mem_map_of_mem rendered)

/-- Every foreign key of every built table resolves against the built tables. -/
theorem LastRound.foreignKeys_resolve (last : LastRound schema kinds plan appName out) :
    ∀ r ∈ out.rendered, ∀ foreignKey ∈ r.2.table.foreignKeys (out.rendered.map (·.2)),
      ∃ key, foreignKey = .ok key := by
  intro r rendered foreignKey listed
  obtain ⟨⟨key, column⟩, within, referenced⟩ := List.mem_filterMap.mp listed
  obtain ⟨target, pointed, rfl⟩ := Option.map_eq_some_iff.mp referenced
  obtain ⟨info, t, targetClassName, kept, className, targetKey, d, described, notMany⟩ :=
    (last.holds r rendered).references (key, column) within target pointed
  obtain ⟨s, targetRendered, -, -, builtClassName, hasKey⟩ := last.relation_target rendered kept
  have single := (FieldInfo.describeRelation_eq_some described).2.2 notMany
  -- the search by class name finds the target's table, which has the key
  have found := last.find?_className targetRendered
  rw [builtClassName, ← className] at found
  obtain ⟨referencedColumn, columnFound⟩ :=
    Option.isSome_iff_exists.mp (Keyed.get?_isSome_of_mem_keys (targetKey ▸ hasKey single))
  unfold ColumnTarget.resolve
  rw [found]
  simp only [columnFound]
  exact ⟨_, rfl⟩

end Kept

/-! ## The whole pass -/

/-- The built models of a pass are the built models of its last round. -/
theorem holds_of_settles {plan : Plan} {appName : String} {out : Outcome BuiltModel}
    (settles : out.Settles plan (buildModel appName)) :
    ∀ r ∈ out.rendered, r.2.Holds r.1 out.classNames := by
  intro r rendered
  obtain ⟨log, after, call⟩ := settles.rendered_call r rendered
  exact buildModel_holds call

/-- The planned models of a schema without fields named `__proto__` have none either. -/
theorem noProtoField_of_described {schema : Schema} {kinds : KindMap} {plan : Plan}
    (described : plan.Described schema kinds)
    (noProto : ∀ model ∈ schema.models, ∀ field ∈ model.fields, field.name ≠ "__proto__") :
    ∀ model ∈ plan.models, model.NoProtoField := by
  intro model planned info listed
  obtain ⟨source, inSchema, describedBy⟩ := described.described model planned
  rw [describedBy] at listed
  obtain ⟨field, within, fieldDescribed⟩ := List.mem_filterMap.mp listed
  rw [(Schema.describeField_describes fieldDescribed).name]
  exact noProto source inSchema field within

/-- The pass that builds tables from a plan of a built schema, under a kind map that
keeps references and with no field named `__proto__`, ends in a last round. -/
theorem lastRound_of_plan {manifest : Manifest} {schema : Schema} (built : Schema.build manifest = .ok schema)
    {opts : PlanOptions} {plan : Plan} (planned : schema.plan opts = .ok plan) (keeps : opts.kinds.KeepsReferences)
    (noProto : ∀ model ∈ schema.models, ∀ field ∈ model.fields, field.name ≠ "__proto__")
    (appName : String) (log : List LogEntry) :
    ∃ tables after, (plan.render (buildModel appName)).run.run log = (.ok tables, after) ∧
      LastRound schema opts.kinds plan appName tables := by
  obtain ⟨tables, after, run, settles⟩ := renderRounds_settles (buildModel appName) plan
    (plan.models.length + 1) (Pass.start plan) log (Pass.invariant_start plan) (by simp [Pass.start])
  exact ⟨tables, after, run, Schema.build_wellFormed built, keeps, noProto, Schema.plan_described planned,
    settles, holds_of_settles settles⟩

/-- The empty kind map keeps every kind, references included. -/
theorem KindMap.keepsReferences_nil : KindMap.KeepsReferences [] := by
  intro kind chosen
  rcases chosen with rfl | rfl
  · exact .inl rfl
  · exact .inr rfl

/-- Three models: `B` refers to `C` by a foreign key, and `A` refers to that key of
`B` by a one-to-one field. -/
def chainManifest : Manifest :=
  { defaultAutoField := "BigAutoField", enums := []
    models := [
      { app := "a", name := "C", fields := [{ name := "v", kind := "IntegerField" }] },
      { app := "a", name := "B"
        fields := [{ name := "link", kind := "ForeignKey", relatedTo := some "a.C" },
          { name := "w", kind := "IntegerField" }] },
      { app := "a", name := "A"
        fields := [{ name := "f", kind := "OneToOneField", relatedTo := some "a.B", toField := some "link" },
          { name := "u", kind := "IntegerField" }] }] }

end ModelTables
