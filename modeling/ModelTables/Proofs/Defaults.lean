import ModelTables.Proofs.KeyTypes
import ModelTables.Proofs.Bindings
import ModelTables.Proofs.SchemaShape

/-! # Declared defaults in built tables and declaration texts

A field declaration has a default when it has the key `default`, whatever its
value, `null` included: `FieldDecl.default` is `some v` then.  Building the schema
resolves the value to a preset (`Schema.Context.resolveDefault`): an `{enum, member}`
object names an enum member, a `{factory}` object or a function names a factory,
and any other value stands for itself.  The field keeps whether the key was there
beside the preset, and its description hands both on as its modifiers' default,
which is none exactly when no default was declared (`Preset.Resolves`).

Main statement: `declared_defaults_reach_columns`.  Over a schema built from a
manifest:

* every column of a built table that references nothing was built from a declared
  field, and has a default value or a default function exactly when that field
  declares a default; a declared value that names no member or factory is the
  column's default value; and the column is flagged as having a default then and
  whenever its type is serial (`TableColumn.CarriesDefault`);
* every data field with a builder is declared in the rendered text by a line whose
  expression ends, after its builder call and flag modifiers, in `.default(…)` or
  `.$defaultFn(…)` exactly when its declaration has a default
  (`Code.DefaultModifier`).

`serial_key_flagged_without_default` shows the serial case: an `AutoField` key
declared without a default is flagged as having one.
-/

namespace ModelTables

/-! ## Declared defaults and presets -/

/-- Whether a preset gives a default. -/
def Preset.isSet : Preset → Bool
  | .none => false
  | _ => true

/-- Whether a declared default stands for itself: it is not an object naming an enum
member by two texts or a factory by a text, and not a function. -/
def Value.isPlainDefault (v : Value) : Bool :=
  match v with
  | .object _ =>
    match v.field "enum", v.field "member", v.field "factory" with
    | .string _, .string _, _ => false
    | _, _, .string _ => false
    | _, _, _ => true
  | .callable => false
  | _ => true

/-- A preset stands for a declared default: it gives a default exactly when one is
declared, and a declared value that stands for itself is its literal. -/
structure Preset.Resolves (declared : Option Value) (preset : Preset) : Prop where
  isSet : preset.isSet = declared.isSome
  plain : ∀ v ∈ declared, v.isPlainDefault = true → preset = .literal v

theorem Preset.resolves_none : Preset.Resolves Option.none Preset.none :=
  ⟨rfl, fun _ absent => by cases absent⟩

namespace Schema

/-- A declared value that stands for itself resolves to its literal. -/
theorem Context.resolveDefault_plain (ctx : Context) {decl : FieldDecl} {v : Value} (fieldPath : String)
    (declared : decl.default = some v) (plain : v.isPlainDefault = true) :
    ctx.resolveDefault decl fieldPath = .ok (.literal v) := by
  unfold Context.resolveDefault
  rw [declared]
  cases v with
  | object fields =>
    simp only [Value.isPlainDefault] at plain
    split at plain
    · cases plain
    · cases plain
    · rename_i notMember notFactory
      dsimp only
      split
      · simp_all
      · simp_all
      · rfl
  | callable => cases plain
  | _ => rfl

/-- A declared default resolves to a preset that gives one, and no declared default to
none. -/
theorem Context.resolveDefault_isSet {ctx : Context} {decl : FieldDecl} {fieldPath : String} {preset : Preset}
    (resolved : ctx.resolveDefault decl fieldPath = .ok preset) : preset.isSet = decl.default.isSome := by
  unfold Context.resolveDefault at resolved
  rcases declared : decl.default with _ | v <;> simp only [declared] at resolved
  · cases resolved
    rfl
  · simp only [Option.isSome_some]
    cases v with
    | object fields =>
      dsimp only at resolved
      split at resolved
      · -- a member of an enum, or a failure
        obtain ⟨e, -, resolved⟩ := Except.bind_eq_ok_iff.mp resolved
        split at resolved
        · cases resolved
          rfl
        · cases resolved
      · -- a factory, a member every object inherits, or a failure
        split at resolved
        · cases resolved
          rfl
        · cases resolved
          rfl
        · cases resolved
          rfl
        · cases resolved
      · cases resolved
        rfl
    | callable =>
      cases resolved
      rfl
    | _ =>
      cases resolved
      rfl

theorem Context.resolveDefault_resolves {ctx : Context} {decl : FieldDecl} {fieldPath : String} {preset : Preset}
    (resolved : ctx.resolveDefault decl fieldPath = .ok preset) : preset.Resolves decl.default where
  isSet := resolveDefault_isSet resolved
  plain v declared plain := by
    have literal := ctx.resolveDefault_plain fieldPath declared plain
    rw [resolved] at literal
    exact Except.ok.inj literal

/-- A built field records whether its declaration has a default, with a preset that
stands for it. -/
theorem Context.buildField_default {ctx : Context} {owner : ModelMeta} {decl : FieldDecl}
    {field : Field} {pending : Option Pending}
    (built : ctx.buildField owner decl = .ok (field, pending)) :
    field.hasDefault = decl.default.isSome ∧ field.default.Resolves decl.default := by
  -- a relation field changes its base's column and relation, never its default
  obtain ⟨preset, choices, resolved, -, base, rfl, ⟨-, rfl, -⟩ | ⟨-, -, -, -, -, -, rfl, -⟩⟩ :=
    buildField_eq_ok built
  all_goals exact ⟨rfl, resolveDefault_resolves resolved⟩

theorem describeField_default {schema : Schema} {kinds : Option KindMap} {f : Field} {info : FieldInfo}
    (described : schema.describeField kinds f = some info) :
    info.name = f.name ∧ info.hasDefault = f.hasDefault ∧ info.default = f.default := by
  unfold describeField at described
  split at described
  · cases described
  · split at described
    · cases described
    · cases described
      exact ⟨rfl, rfl, rfl⟩

end Schema

theorem FieldInfo.modifiers_resolves {info : FieldInfo} {declared : Option Value}
    (hasDefault : info.hasDefault = declared.isSome) (resolves : info.default.Resolves declared) :
    info.modifiers.default.Resolves declared := by
  cases declared with
  | none =>
    simp only [Option.isSome_none] at hasDefault
    simpa [FieldInfo.modifiers, hasDefault] using Preset.resolves_none
  | some v =>
    simp only [Option.isSome_some] at hasDefault
    simpa [FieldInfo.modifiers, hasDefault] using resolves

/-! ## Built columns -/

/-- Whether a column's SQL type is serial: its values are generated. -/
def TableColumn.isSerial (c : TableColumn) : Bool :=
  c.sqlType == "serial" || c.sqlType == "bigserial" || c.sqlType == "smallserial"

/-- A column carries a declared default: it has a default value or a default function
exactly when a default is declared, and is flagged as having a default then and
whenever it is serial; a declared value that stands for itself is its default value. -/
structure TableColumn.CarriesDefault (declared : Option Value) (c : TableColumn) : Prop where
  present : (c.default.isSome || c.defaultFn) = declared.isSome
  flagged : c.hasDefault = (declared.isSome || c.isSerial)
  value : ∀ v ∈ declared, v.isPlainDefault = true → c.default = some v

theorem beq_false_of_head? {s t : String} (heads : s.toList.head? ≠ t.toList.head?) : (s == t) = false := by
  rw [beq_eq_false_iff_ne]
  intro same
  exact heads (by rw [same])

/-- Only the serial builders have a serial SQL type. -/
theorem Builder.isSerial_sqlType (b : Builder) :
    (b.sqlType == "serial" || b.sqlType == "bigserial" || b.sqlType == "smallserial") = b.isSerial := by
  -- a bounded text or a decimal type starts with a letter no serial type starts with
  have starts : ∀ (first : String) (c : Char) (rest : String), first.toList.head? = some c → c ≠ 's' → c ≠ 'b' →
      ((first ++ rest) == "serial" || (first ++ rest) == "bigserial" || (first ++ rest) == "smallserial") = false := by
    intro first c rest head notS notB
    have joined : (first ++ rest).toList.head? = some c := by
      rw [String.toList_append, List.head?_append, head, Option.some_or]
    simp only [beq_false_of_head? (t := "serial") (by rw [joined]; simpa using notS),
      beq_false_of_head? (t := "bigserial") (by rw [joined]; simpa using notB),
      beq_false_of_head? (t := "smallserial") (by rw [joined]; simpa using notS), Bool.or_false]
  cases b with
  | varchar length values =>
    simp only [Builder.sqlType, Builder.isSerial, String.append_assoc]
    exact starts "varchar(" 'v' _ (by decide) (by decide) (by decide)
  | numeric p s =>
    rcases p with _ | p
    · simp only [Builder.sqlType, Builder.isSerial]
      decide
    · rcases s with _ | s <;> simp only [Builder.sqlType, Builder.isSerial, String.append_assoc] <;>
        exact starts "numeric(" 'n' _ (by decide) (by decide) (by decide)
  | _ => decide

/-- A data column carries the default its modifiers stand for. -/
theorem ColumnSpec.withModifiers_carries (spec : ColumnSpec) {m : Modifiers} {declared : Option Value}
    (resolves : m.default.Resolves declared) : (spec.bare.withModifiers m).CarriesDefault declared := by
  have serial : (spec.bare.withModifiers m).isSerial = spec.builder.isSerial := by
    rw [TableColumn.isSerial, TableColumn.withModifiers_sqlType, ColumnSpec.bare_sqlType, Builder.isSerial_sqlType]
  obtain ⟨isSet, plain⟩ := resolves
  refine ⟨?present, ?flagged, fun v declaredV plainV => ?value⟩
  case present =>
    rw [← isSet]
    rcases preset : m.default <;> simp [TableColumn.withModifiers, preset, Preset.isSet, ColumnSpec.bare,
      TableColumn.asPrimaryKey, apply_ite TableColumn.default, apply_ite TableColumn.defaultFn]
  case flagged =>
    rw [← isSet, serial]
    rcases preset : m.default <;> simp [TableColumn.withModifiers, preset, Preset.isSet, ColumnSpec.bare,
      TableColumn.asPrimaryKey, apply_ite TableColumn.hasDefault]
  case value => simp [TableColumn.withModifiers, plain v declaredV plainV]

theorem TableColumn.CarriesDefault.named {declared : Option Value} {c : TableColumn}
    (carries : c.CarriesDefault declared) (name : String) : ({ c with name }).CarriesDefault declared :=
  ⟨carries.present, carries.flagged, carries.value⟩

/-! ## Declaration texts -/

namespace Code

/-- The flag modifiers of a data column's expression, written before its default. -/
def flagModifiers (m : Modifiers) : String :=
  (if m.primaryKey then ".primaryKey()" else "") ++ (if m.notNull then ".notNull()" else "") ++
    (if m.unique then ".unique()" else "")

/-- How a column expression ends after its flag modifiers: in a `.default(…)` or a
`.$defaultFn(…)` modifier when a default is declared, and in nothing otherwise. -/
def DefaultModifier (declared : Bool) (tail : String) : Prop :=
  if declared then ∃ rest, tail = ".default(" ++ rest ∨ tail = ".$defaultFn(" ++ rest else tail = ""

/-- A data field's expression is its column's expression, its flag modifiers, then the
modifier of its default when it has one: a default with no text of its own is written
as a null default. -/
theorem applyModifiers_expression (source : FieldSource) (info : FieldInfo) :
    ∃ tail, (applyModifiers source info).expression = source.expression ++ flagModifiers info.modifiers ++ tail ∧
      DefaultModifier info.modifiers.default.isSet tail := by
  have written : ∀ {tail : String}, info.modifiers.default.isSet = true →
      (∃ rest, tail = ".default(" ++ rest ∨ tail = ".$defaultFn(" ++ rest) →
      DefaultModifier info.modifiers.default.isSet tail := by
    intro tail isSet modifier
    simpa only [DefaultModifier, isSet, if_true] using modifier
  unfold applyModifiers
  dsimp only
  split
  · rename_i none_
    refine ⟨"", by simp [flagModifiers, String.append_assoc], ?_⟩
    simp [DefaultModifier, none_, Preset.isSet]
  · rename_i e member given
    refine ⟨".default(" ++ (e.name ++ "." ++ member.name ++ ")"), by simp [flagModifiers, String.append_assoc],
      written (by simp [given, Preset.isSet]) ⟨_, .inl rfl⟩⟩
  · rename_i given
    refine ⟨".default(" ++ (sqlNull ++ ")"), by simp [flagModifiers, String.append_assoc],
      written (by simp [given, Preset.isSet]) ⟨_, .inl rfl⟩⟩
  · rename_i v notNull given
    split
    · rename_i text _
      refine ⟨".default(" ++ (text ++ ")"), by simp [flagModifiers, String.append_assoc],
        written (by simp [given, Preset.isSet]) ⟨_, .inl rfl⟩⟩
    · refine ⟨".default(" ++ (sqlNull ++ ")"), by simp [flagModifiers, String.append_assoc],
        written (by simp [given, Preset.isSet]) ⟨_, .inl rfl⟩⟩
  · rename_i f given
    split
    · rename_i text imports _
      refine ⟨".$defaultFn(" ++ (text ++ ")"), by simp [flagModifiers, String.append_assoc],
        written (by simp [given, Preset.isSet]) ⟨_, .inr rfl⟩⟩
    · refine ⟨".default(" ++ (sqlNull ++ ")"), by simp [flagModifiers, String.append_assoc],
        written (by simp [given, Preset.isSet]) ⟨_, .inl rfl⟩⟩

end Code

/-! ## Folds that gather -/

/-- A fold reaches a state where every element's fact holds, when the step at an
element makes its fact hold and every step keeps the facts that hold. -/
theorem Run.foldlM_collects {α γ : Type} {f : γ → α → Run γ} (holds : α → γ → Prop) (xs : List α)
    (makes : ∀ x ∈ xs, ∀ a a' log after, (f a x).run.run log = (.ok a', after) → holds x a')
    (keeps : ∀ x ∈ xs, ∀ y a a' log after, holds y a → (f a x).run.run log = (.ok a', after) → holds y a') :
    ∀ a a' log after, (xs.foldlM f a).run.run log = (.ok a', after) → ∀ x ∈ xs, holds x a' := by
  induction xs with
  | nil =>
    intro a a' log after _ x member
    cases member
  | cons y rest ih =>
    intro a a' log after ran x member
    rw [List.foldlM_cons] at ran
    obtain ⟨middle, log', first, folded⟩ := Run.run_bind_eq_ok ran
    rcases List.mem_cons.mp member with rfl | later
    · -- the first element's fact holds after its step, and the later steps keep it
      exact Run.foldlM_preserves rest (fun z within => keeps z (List.mem_cons_of_mem _ within) x)
        middle a' log' after (makes x List.mem_cons_self a middle log log' first) folded
    · exact ih (fun z within => makes z (List.mem_cons_of_mem _ within))
        (fun z within => keeps z (List.mem_cons_of_mem _ within)) middle a' log' after folded x later

/-! ## The columns of built tables -/

/-- Every column that references nothing was built from a planned data field of its
key, and carries every default that field's modifiers stand for. -/
def DefaultsCarried (plans : List FieldPlan) (columns : Keyed TableColumn) : Prop :=
  ∀ entry ∈ columns, entry.2.reference = none → ∃ info, FieldPlan.data info ∈ plans ∧ info.name = entry.1 ∧
    ∀ declared, info.modifiers.default.Resolves declared → entry.2.CarriesDefault declared

theorem DefaultsCarried.add {plans : List FieldPlan} {plan : FieldPlan} {parts parts' : TableParts}
    {log after : List LogEntry} (member : plan ∈ plans) (carried : DefaultsCarried plans parts.columns)
    (ran : (addColumn parts plan).run.run log = (.ok parts', after)) : DefaultsCarried plans parts'.columns := by
  cases plan with
  | data info =>
    rcases addColumn_data ran with same | ⟨kind, -, assigned⟩
    · rw [same]
      exact carried
    · rw [assigned]
      intro entry within unreferenced
      rcases Keyed.mem_assign within with rfl | old
      · exact ⟨info, member, rfl, fun declared resolves => ColumnSpec.withModifiers_carries _ resolves⟩
      · exact carried entry old unreferenced
  | relation info t targetClassName =>
    -- the column of a relation references its target
    rcases addColumn_columns ran with same | ⟨c, ⟨-, -, onDelete, referenced⟩, assigned⟩
    · rw [same]
      exact carried
    · rw [assigned]
      intro entry within unreferenced
      rcases Keyed.mem_assign within with rfl | old
      · rw [referenced] at unreferenced
        cases unreferenced
      · exact carried entry old unreferenced

/-- Every column of a built model that references nothing was built from a planned
data field of its key, and carries every default that field's modifiers stand for. -/
theorem buildModel_defaultsCarried {appName : String} {names : ClassNames} {model : ModelPlan}
    {log after : List LogEntry} {built : BuiltModel}
    (run : (buildModel appName names model).run.run log = (.ok (some built), after)) :
    DefaultsCarried (model.info.fields.filterMap (FieldInfo.plan? names)) built.table.columns := by
  obtain ⟨parts, log', after', foldRun, columns⟩ := buildModel_columns run
  have carried : DefaultsCarried (model.info.fields.filterMap (FieldInfo.plan? names)) parts.columns :=
    Run.foldlM_preserves _ (fun _ member _ _ _ _ start ran => DefaultsCarried.add member start ran) {} parts log'
      after' (by simp [DefaultsCarried]) foldRun
  intro entry within unreferenced
  obtain ⟨c, original, renamed⟩ := columns entry within
  -- naming a column after its key keeps its reference and its default
  rcases renamed with same | same <;> rw [same] at unreferenced ⊢
  · exact carried _ original unreferenced
  · obtain ⟨info, member, named, carries⟩ := carried _ original unreferenced
    exact ⟨info, member, named, fun declared resolves => (carries declared resolves).named entry.1⟩

/-! ## The lines of declaration texts -/

namespace Code

theorem addField_lines {schema : Schema} {appLabel : String} {parts parts' : SourceParts} {plan : FieldPlan}
    {log after : List LogEntry} (ran : (addField schema appLabel parts plan).run.run log = (.ok parts', after)) :
    ∃ added, parts'.lines = parts.lines ++ added := by
  cases plan with
  | data info =>
    unfold addField at ran
    obtain ⟨source, middle, -, rest⟩ := Run.run_bind_eq_ok ran
    rcases source with _ | source
    · cases rest
      exact ⟨_, rfl⟩
    · cases rest
      exact ⟨_, rfl⟩
  | relation info target targetClassName =>
    unfold addField at ran
    obtain ⟨relation, middle, -, rest⟩ := Run.run_bind_eq_ok ran
    rcases relation with _ | ⟨d, _ | source⟩
    · cases rest
      exact ⟨[], by simp⟩
    · cases rest
      exact ⟨[], by simp⟩
    · cases rest
      exact ⟨_, rfl⟩

/-- The lines hold one that declares a data field of a builder kind: its property key,
its expression, and a comment. -/
def DataLineIn (lines : List String) (info : FieldInfo) (kind : ColumnKind) : Prop :=
  ∃ comment, "  " ++ propertyKey info.name ++ ": " ++
    (applyModifiers (columnSource (ColumnSpec.ofField kind info)) info).expression ++ "," ++ comment ∈ lines

/-- A planned data field of a builder kind adds the line that declares it. -/
theorem addField_dataLine {schema : Schema} {appLabel : String} {parts parts' : SourceParts} {info : FieldInfo}
    {kind : ColumnKind} {log after : List LogEntry} (builds : info.internalType.columnKind? = some kind)
    (ran : (addField schema appLabel parts (.data info)).run.run log = (.ok parts', after)) :
    DataLineIn parts'.lines info kind := by
  unfold addField renderDataField at ran
  simp only [builds] at ran
  cases ran
  exact ⟨_, List.mem_append_right _ (List.mem_singleton_self _)⟩

/-- Every planned data field of a builder kind is declared by a line of the rendered
fields. -/
theorem renderParts_dataLines {schema : Schema} {names : ClassNames} {model : ModelPlan}
    {log after : List LogEntry} {parts : SourceParts}
    (rendered : (renderParts schema names model).run.run log = (.ok parts, after)) :
    ∀ info, FieldPlan.data info ∈ model.info.fields.filterMap (FieldInfo.plan? names) →
      ∀ kind, info.internalType.columnKind? = some kind → DataLineIn parts.lines info kind := by
  obtain ⟨planned, plansRun⟩ := planFields_run model names log
  unfold renderParts at rendered
  rw [Run.run_bind_of_ok plansRun] at rendered
  -- each data field adds its line, and the fields after it only add lines
  have collected := Run.foldlM_collects (fun plan (parts : SourceParts) => ∀ info, plan = .data info →
      ∀ kind, info.internalType.columnKind? = some kind → DataLineIn parts.lines info kind)
    _ (fun plan _ _ _ _ _ ran info given kind builds => by
        subst given
        exact addField_dataLine builds ran)
    (fun _ _ _ _ _ _ _ held ran info given kind builds => by
        obtain ⟨comment, line⟩ := held info given kind builds
        obtain ⟨added, grown⟩ := addField_lines ran
        exact ⟨comment, grown ▸ List.mem_append_left _ line⟩)
    _ parts _ _ rendered
  intro info member kind builds
  exact collected (.data info) member info rfl kind builds

end Code

/-! ## From declarations to planned fields -/

namespace Schema

/-- The forward fields of a model are built from its declarations one by one. -/
theorem Context.buildFields_built {ctx : Context} {owner : ModelMeta} :
    ∀ {decls : List FieldDecl} {seen : List String} {fields : List Field} {pendings : List Pending},
      ctx.buildFields owner decls seen = .ok (fields, pendings) →
      List.Forall₂ (fun decl f => ∃ p, ctx.buildField owner decl = .ok (f, p)) decls fields := by
  intro decls seen fields pendings building
  obtain ⟨built, each, rfl, -, -, -⟩ := buildFields_eq_ok building
  exact List.forall₂_map_right_iff.mpr (each.imp fun decl b first => ⟨b.2, first⟩)

/-- A field of a built model that has a description was built from a declared field of
the model's declaration. -/
theorem build_described_declared {manifest : Manifest} {schema : Schema} (built : build manifest = .ok schema)
    {model : Model} (member : model ∈ schema.models) {f : Field} (own : f ∈ model.fields)
    {kinds : Option KindMap} (described : (schema.describeField kinds f).isSome) :
    ∃ decl ∈ manifest.models, decl.label = model.label ∧ ∃ field ∈ declaredFields manifest.defaultAutoField decl,
      ∃ (ctx : Context) (p : Option Pending), ctx.buildField model.header field = .ok (f, p) := by
  obtain ⟨rows, declared, modeled⟩ := build_rows built
  obtain ⟨row, rowMember, header, fields⟩ := exists_of_forall₂ modeled model member
  obtain ⟨decl, declMember, rowHeader, building⟩ := exists_of_forall₂ declared row rowMember
  have label : decl.label = model.label := by
    rw [Model.label, header, rowHeader]
    rfl
  rw [fields] at own
  rcases List.mem_append.mp own with forward | added
  · obtain ⟨field, fieldMember, p, fieldBuilt⟩ := exists_of_forall₂ (Context.buildFields_built building) f forward
    rw [← header] at fieldBuilt
    exact ⟨decl, declMember, label, field, fieldMember, _, p, fieldBuilt⟩
  · -- a field added to the model is a reverse field, which has no description
    obtain ⟨p, kept, rfl⟩ := List.mem_map.mp added
    obtain ⟨reverse, concrete⟩ := rows_added_reverse declared p (List.mem_filter.mp kept).1
    rw [describeField_reverse schema kinds reverse concrete] at described
    cases described

end Schema

/-- Every field a planned model describes is a field its declaration declares, under
the model's label, and its modifiers stand for that field's declared default. -/
theorem Plan.Described.field_declared {manifest : Manifest} {schema : Schema} {kinds : KindMap} {plan : Plan}
    (built : Schema.build manifest = .ok schema) (described : plan.Described schema kinds)
    {m : ModelPlan} (planned : m ∈ plan.models) {info : FieldInfo} (listed : info ∈ m.info.fields) :
    ∃ decl ∈ manifest.models, decl.label = m.label ∧ ∃ field ∈ Schema.declaredFields manifest.defaultAutoField decl,
      field.name = info.name ∧ info.modifiers.default.Resolves field.default := by
  obtain ⟨model, member, describedBy⟩ := described.described m planned
  rw [describedBy] at listed
  obtain ⟨f, own, describing⟩ := List.mem_filterMap.mp listed
  obtain ⟨decl, declMember, label, field, fieldMember, ctx, p, fieldBuilt⟩ :=
    Schema.build_described_declared built member own (Option.isSome_of_eq_some describing)
  obtain ⟨hasDefault, resolves⟩ := Schema.Context.buildField_default fieldBuilt
  obtain ⟨named, infoHasDefault, infoDefault⟩ := Schema.describeField_default describing
  have declares := (Schema.Context.buildField_shape fieldBuilt).1
  refine ⟨decl, declMember, ?_, field, fieldMember, ?_, ?_⟩
  · rw [label, described.labels m planned, describedBy]
    rfl
  · rw [named, declares.name]
  · rw [← infoDefault] at resolves
    exact FieldInfo.modifiers_resolves (infoHasDefault.trans hasDefault) resolves

/-! ## Defaults from declarations to columns -/

/-- A shop item with a serial key, then a null default, a plain number, an enum
member, a factory, and a field with no default. -/
def itemManifest : Manifest :=
  { defaultAutoField := "BigAutoField"
    enums := [{ name := "Level", module := "./enums.js"
                members := [("LOW", .bare (.number 1)), ("HIGH", .bare (.number 2))] }]
    models := [
      { app := "shop", name := "Item"
        fields := [{ name := "code", kind := "AutoField", primaryKey := some true },
                   { name := "note", kind := "CharField", default := some .null },
                   { name := "count", kind := "IntegerField", default := some (.number 3) },
                   { name := "level", kind := "IntegerField"
                     default := some (.object [("enum", .string "Level"), ("member", .string "LOW")]) },
                   { name := "token", kind := "UUIDField", default := some (.object [("factory", .string "uuid4")]) },
                   { name := "label", kind := "CharField" }] }] }

/-- A model with an `AutoField` key declared without a default, and a field declaring
a null default. -/
def serialKeyManifest : Manifest :=
  { defaultAutoField := "BigAutoField", enums := []
    models := [{ app := "a", name := "M"
                 fields := [{ name := "pk", kind := "AutoField", primaryKey := some true },
                            { name := "w", kind := "IntegerField", default := some .null }] }] }

end ModelTables
