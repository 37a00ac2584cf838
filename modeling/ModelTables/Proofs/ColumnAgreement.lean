import ModelTables.Proofs.ColumnReading

/-! # Built columns and their expressions agree

The table builders make each stored field a column (`buildDataColumn`,
`buildRelation`); the text renderer writes it as a column expression
(`renderDataField`, `renderRelationField`).  Both start from one column spec, and
the expression, read back with `Code.readColumn`, describes the column
(`ColumnRead.Describes`): the same column name, a call the builders make into the
column's SQL type and enum values, the same primary key, not-null and unique flags,
a default modifier exactly when the column has a default value or function, and the
same reference.

Each expression is written as a builder call (`Builder.callName`,
`Builder.callOptions`) followed by modifiers; `Code.dataRead` and
`Code.relationRead` are what the expressions of a data field and of a relation read
back as, and the description is checked field by field against the built column.

Main statement: `columns_read_back_alike`.  For every field description, the runs of
both renderers log alike and build a column exactly when they render an expression;
when the enum that types the column, the target's class name and the referenced
field's name are identifiers, every rendered expression reads back as a description
of the built column, typed by the enum of its spec, with a default modifier exactly
when the field declares a default, and the text of a literal default standing for
the column's default value.

`reference_to_dashed_key_unread` shows a referenced field whose name is not an
identifier: the reference is written `CTable.order-no`, which reads as a
subtraction, so the expression does not read back.
-/

namespace ModelTables

/-- The name of the call written for a builder. -/
def Builder.callName : Builder → String
  | .serial => "serial"
  | .bigserial => "bigserial"
  | .smallserial => "smallserial"
  | .integer => "integer"
  | .bigint => "bigint"
  | .smallint => "smallint"
  | .varchar _ _ => "varchar"
  | .text => "text"
  | .boolean => "boolean"
  | .date => "date"
  | .timestamp => "timestamp"
  | .time => "time"
  | .interval => "interval"
  | .numeric _ _ => "numeric"
  | .doublePrecision => "doublePrecision"
  | .bytea => "bytea"
  | .uuid => "uuid"
  | .jsonb => "jsonb"

/-- The options of the call written for a builder. -/
def Builder.callOptions : Builder → List (String × Code.OptionValue)
  | .bigserial | .bigint => [("mode", .quoted "\"number\"")]
  | .varchar length choices =>
    ("length", .word (Decimal.numberText length)) ::
      if choices.isEmpty then [] else [("enum", .list (choices.map Text.quote))]
  | .timestamp => [("withTimezone", .word "true")]
  | .numeric precision scale =>
    (precision.map fun p => ("precision", .word (Decimal.numberText p))).toList ++
      (scale.map fun s => ("scale", .word (Decimal.numberText s))).toList
  | _ => []

/-! ## Modifiers of a built column -/

@[simp] theorem TableColumn.withModifiers_name (c : TableColumn) (m : Modifiers) :
    (c.withModifiers m).name = c.name := by
  unfold TableColumn.withModifiers
  cases m.default <;> simp only [apply_ite TableColumn.name, TableColumn.asPrimaryKey, ite_self]

@[simp] theorem TableColumn.withModifiers_enumValues (c : TableColumn) (m : Modifiers) :
    (c.withModifiers m).enumValues = c.enumValues := by
  unfold TableColumn.withModifiers
  cases m.default <;> simp only [apply_ite TableColumn.enumValues, TableColumn.asPrimaryKey, ite_self]

theorem TableColumn.withModifiers_notNull (c : TableColumn) (m : Modifiers) :
    (c.withModifiers m).notNull = (c.notNull || m.primaryKey || m.notNull) := by
  unfold TableColumn.withModifiers
  cases m.default <;> simp only [apply_ite TableColumn.notNull, TableColumn.asPrimaryKey] <;>
    cases m.primaryKey <;> cases m.notNull <;> simp

theorem TableColumn.withModifiers_primaryKey (c : TableColumn) (m : Modifiers) :
    (c.withModifiers m).primaryKey = (c.primaryKey || m.primaryKey) := by
  unfold TableColumn.withModifiers
  cases m.default <;> simp only [apply_ite TableColumn.primaryKey, TableColumn.asPrimaryKey, ite_self] <;>
    cases m.primaryKey <;> simp

theorem TableColumn.withModifiers_unique (c : TableColumn) (m : Modifiers) :
    (c.withModifiers m).unique = (c.unique || m.unique) := by
  unfold TableColumn.withModifiers
  cases m.default <;> simp only [apply_ite TableColumn.unique, TableColumn.asPrimaryKey, ite_self] <;>
    cases m.unique <;> simp

theorem TableColumn.withModifiers_hasDefault (c : TableColumn) (m : Modifiers) :
    (c.withModifiers m).hasDefault = (c.hasDefault || m.default.isSet) := by
  unfold TableColumn.withModifiers
  cases m.default <;> simp [apply_ite TableColumn.hasDefault, TableColumn.asPrimaryKey, Preset.isSet]

/-- A column has a default value or function after its modifiers exactly when it had
one before or its modifiers set one. -/
theorem TableColumn.withModifiers_defaulted (c : TableColumn) (m : Modifiers) :
    ((c.withModifiers m).default.isSome || (c.withModifiers m).defaultFn) =
      (c.default.isSome || c.defaultFn || m.default.isSet) := by
  unfold TableColumn.withModifiers
  cases m.default <;>
    simp [apply_ite TableColumn.default, apply_ite TableColumn.defaultFn, TableColumn.asPrimaryKey, Preset.isSet]

theorem TableColumn.withModifiers_literal {m : Modifiers} {v : Value} (given : m.default = .literal v)
    (c : TableColumn) : (c.withModifiers m).default = some v := by
  simp [TableColumn.withModifiers, given]

theorem TableColumn.withModifiers_factory {m : Modifiers} {f : Factory} (given : m.default = .factory f)
    (c : TableColumn) : (c.withModifiers m).defaultFn = true := by
  simp [TableColumn.withModifiers, given]

namespace Code

/-! ## Builder calls -/

/-- The builder call written for a column spec. -/
def specCall (spec : ColumnSpec) : CallRead :=
  ⟨spec.builder.callName, Text.quote spec.column, spec.builder.callOptions⟩

/-- An untyped spec's expression is its builder call. -/
theorem columnSource_call (column : String) (b : Builder) :
    (columnSource ⟨column, b, none⟩).expression = (specCall ⟨column, b, none⟩).text := by
  -- the options split where the builder's own do: on an enum's values, a decimal's digits and places
  cases b with
  | varchar length choices =>
    cases choices <;> simp [columnSource, builderCall, specCall, CallRead.text, Builder.callName,
      Builder.callOptions, entryText, OptionValue.text, ← String.append_assoc]
  | numeric p s =>
    cases p <;> cases s <;> simp [columnSource, builderCall, specCall, CallRead.text, Builder.callName,
      Builder.callOptions, entryText, OptionValue.text, ← String.append_assoc]
  | _ =>
    simp [columnSource, builderCall, specCall, CallRead.text, Builder.callName, Builder.callOptions, entryText,
      OptionValue.text, ← String.append_assoc]

/-- The builders make the call written for a spec into the spec's SQL type and enum
values, and into a serial column exactly for a serial builder. -/
theorem callType_specCall (spec : ColumnSpec) :
    callType (specCall spec).builder (specCall spec).options =
      some ⟨spec.builder.sqlType, spec.bare.enumValues.map (·.map Text.quote), spec.builder.isSerial⟩ := by
  obtain ⟨column, b, enumType⟩ := spec
  cases b with
  | varchar length choices => cases choices <;> rfl
  | numeric p s => cases p <;> cases s <;> rfl
  | _ => rfl

theorem callName_isIdentifier (b : Builder) : isIdentifier b.callName = true := by
  cases b <;> simp only [Builder.callName] <;> decide

theorem specCall_wellFormed (spec : ColumnSpec) : (specCall spec).WellFormed := by
  obtain ⟨column, b, enumType⟩ := spec
  have mode : OptionValue.WellFormed (.quoted "\"number\"") := ⟨"number", by decide⟩
  have number : ∀ x, OptionValue.WellFormed (.word (Decimal.numberText x)) := numberText_words
  refine ⟨callName_isIdentifier b, ⟨column, rfl⟩, ?_⟩
  cases b with
  | bigserial | bigint => simpa [specCall, Builder.callOptions] using ⟨by decide, mode⟩
  | varchar length choices =>
    -- the length, then the enum's values when there are any
    cases choices with
    | nil => simpa [specCall, Builder.callOptions] using ⟨by decide, number length⟩
    | cons c cs =>
      have listed : OptionValue.WellFormed (.list ((c :: cs).map Text.quote)) := by
        refine ⟨by simp, fun t quoted => ?_⟩
        obtain ⟨s, _, rfl⟩ := List.mem_map.mp quoted
        exact ⟨s, rfl⟩
      simpa [specCall, Builder.callOptions] using ⟨⟨by decide, number length⟩, by decide, listed⟩
  | timestamp => simpa [specCall, Builder.callOptions, OptionValue.WellFormed] using by decide
  | numeric p s => cases p <;> cases s <;> simp [specCall, Builder.callOptions, number] <;> decide
  | _ => simp [specCall, Builder.callOptions]

/-! ## What a column expression read back says -/

/-- Whether a column expression read back carries a modifier. -/
def ColumnRead.has (r : ColumnRead) (m : Modifier) : Bool := r.modifiers.contains m

/-- Whether a column expression read back sets a default. -/
def ColumnRead.hasDefault (r : ColumnRead) : Bool := r.modifiers.any Modifier.isDefault

/-- The target of a reference modifier. -/
def Modifier.target? : Modifier → Option ReferenceRead
  | .references t => some t
  | _ => none

/-- The enum of a typing modifier. -/
def Modifier.enumName? : Modifier → Option String
  | .typed enumName => some enumName
  | _ => none

/-- The column a column expression read back references, if any. -/
def ColumnRead.reference? (r : ColumnRead) : Option ReferenceRead := r.modifiers.findSome? Modifier.target?

/-- The enum a column expression read back is typed by, if any. -/
def ColumnRead.typedBy (r : ColumnRead) : Option String := r.modifiers.findSome? Modifier.enumName?

/-- A column expression read back describes a built column: the same column name, a
call the builders make into the column's SQL type and enum values, a column that is
not null exactly when its call is serial or it is marked a primary key or not null,
that has a default exactly when its call is serial or it sets one, the same primary
key and unique flags, a default modifier exactly when the column has a default value
or function (a default function only for a `.$defaultFn(…)`), and the same
reference, its delete rule quoted. -/
structure ColumnRead.Describes (r : ColumnRead) (c : TableColumn) : Prop where
  column : r.call.column = Text.quote c.name
  type : ∃ serial, callType r.call.builder r.call.options =
      some ⟨c.sqlType, c.enumValues.map (·.map Text.quote), serial⟩ ∧
    c.notNull = (serial || r.has .primaryKey || r.has .notNull) ∧ c.hasDefault = (serial || r.hasDefault)
  primaryKey : c.primaryKey = r.has .primaryKey
  unique : c.unique = r.has .unique
  defaulted : (c.default.isSome || c.defaultFn) = r.hasDefault
  defaultFn : ∀ text, Modifier.defaultFn text ∈ r.modifiers → c.defaultFn = true
  reference : r.reference? = c.reference.map fun t => ⟨t.className, t.key, Text.quote t.onDelete.text⟩

/-! ## Modifiers written -/

/-- The flag modifiers of a column, in the order they are written. -/
def flagList (m : Modifiers) : List Modifier :=
  (if m.primaryKey then [.primaryKey] else []) ++ (if m.notNull then [.notNull] else []) ++
    (if m.unique then [.unique] else [])

/-- The text of a literal default, where it has one: a null default is SQL's null. -/
def literalText? (info : FieldInfo) : Value → Option String
  | .null => some sqlNull
  | v => defaultLiteral info v

/-- The modifier that writes a data field's default, if it has one; a default with no
text of its own is written as a null default. -/
def defaultModifier (info : FieldInfo) : Option Modifier :=
  match info.modifiers.default with
  | .none => none
  | .member e member => some (.default (e.name ++ "." ++ member.name))
  | .literal v => some (.default ((literalText? info v).getD sqlNull))
  | .factory f => some ((factorySource f).elim (.default sqlNull) fun written => .defaultFn written.1)

theorem flagModifiers_text (m : Modifiers) : flagModifiers m = String.join ((flagList m).map Modifier.text) := by
  unfold flagModifiers flagList
  cases m.primaryKey <;> cases m.notNull <;> cases m.unique <;> simp

/-- A data field's modifiers are its flags, then its default. -/
theorem applyModifiers_text (source : FieldSource) (info : FieldInfo) :
    (applyModifiers source info).expression =
      source.expression ++ String.join ((flagList info.modifiers ++ (defaultModifier info).toList).map Modifier.text) := by
  rw [List.map_append, String.join_append, ← flagModifiers_text]
  unfold applyModifiers defaultModifier
  dsimp only
  split <;> rename_i given
  · simp [flagModifiers, given, String.append_assoc]
  · simp [flagModifiers, given, String.append_assoc]
  · simp [flagModifiers, given, literalText?, String.append_assoc]
  · -- a literal default: its text, or a null default when it has none
    split
    · rename_i text written
      simp [flagModifiers, given, literalText?, written, String.append_assoc]
    · rename_i written
      simp [flagModifiers, given, literalText?, written, String.append_assoc]
  · split
    · rename_i text imports written
      simp [flagModifiers, given, written, String.append_assoc]
    · rename_i written
      simp [flagModifiers, given, written, String.append_assoc]

theorem defaultModifier_isDefault {info : FieldInfo} {d : Modifier} (written : defaultModifier info = some d) :
    d.isDefault = true := by
  unfold defaultModifier at written
  split at written
  · cases written
  all_goals
    simp only [Option.some.injEq] at written
    subst written
  · rfl
  · rfl
  · cases factorySource _ <;> rfl

theorem defaultModifier_isSome (info : FieldInfo) : (defaultModifier info).isSome = info.modifiers.default.isSet := by
  unfold defaultModifier
  split <;> rename_i given <;> simp [given, Preset.isSet]

theorem defaultModifier_defaultFn {info : FieldInfo} {text : String}
    (written : defaultModifier info = some (.defaultFn text)) : ∃ f, info.modifiers.default = .factory f := by
  unfold defaultModifier at written
  split at written <;> rename_i given
  · cases written
  · cases written
  · cases written
  · exact ⟨_, given⟩

theorem defaultModifier_literal {info : FieldInfo} {v : Value} {text : String}
    (given : info.modifiers.default = .literal v) (written : literalText? info v = some text) :
    defaultModifier info = some (.default text) := by
  simp [defaultModifier, given, written]

theorem Modifier.plain_of_isDefault {m : Modifier} (isDefault : m.isDefault = true) :
    m.enumName? = none ∧ m.target? = none := by
  cases m <;> first | exact ⟨rfl, rfl⟩ | cases isDefault

/-- A flag is neither a default, a type nor a reference. -/
theorem flagList_plain (ms : Modifiers) :
    ∀ m ∈ flagList ms, m.isDefault = false ∧ m.enumName? = none ∧ m.target? = none := by
  intro m listed
  simp only [flagList, List.mem_append, List.mem_ite_nil_right, List.mem_singleton] at listed
  rcases listed with (⟨-, rfl⟩ | ⟨-, rfl⟩) | ⟨-, rfl⟩ <;> exact ⟨rfl, rfl, rfl⟩

theorem Modifier.wellFormed_of_plain {m : Modifier} (untyped : m.enumName? = none) (noTarget : m.target? = none) :
    m.WellFormed := by
  -- a type or a reference would have an enum or a target
  cases m <;> trivial

/-- All but the last of a list with an optional last element are in the list. -/
theorem mem_of_mem_dropLast_append_toList {α : Type} {xs : List α} {o : Option α} {a : α}
    (listed : a ∈ (xs ++ o.toList).dropLast) : a ∈ xs := by
  cases o with
  | none => exact List.dropLast_subset _ (by simpa using listed)
  | some b => rwa [Option.toList_some, List.dropLast_concat] at listed

/-- An expression read back as a spec's call, carrying exactly the flags of a set of
modifiers, a default exactly when they set one, a default function only for a factory
default and a given reference, describes the spec's bare column with that reference
and those modifiers. -/
theorem describes_withModifiers {r : ColumnRead} {spec : ColumnSpec} {m : Modifiers} {target : Option ColumnTarget}
    (call : r.call = specCall spec)
    (flags : ∀ f : Modifier, f.isDefault = false → f.enumName? = none → f.target? = none →
      r.has f = (flagList m).contains f)
    (defaulted : r.hasDefault = m.default.isSet)
    (factory : ∀ text, Modifier.defaultFn text ∈ r.modifiers → ∃ f, m.default = .factory f)
    (reference : r.reference? = target.map fun t => ⟨t.className, t.key, Text.quote t.onDelete.text⟩) :
    r.Describes ({ spec.bare with reference := target }.withModifiers m) where
  column := by simp [call, specCall, ColumnSpec.bare]
  type := by
    refine ⟨spec.builder.isSerial, by simpa [call] using callType_specCall spec, ?_, ?_⟩
    · rw [TableColumn.withModifiers_notNull, flags _ rfl rfl rfl, flags _ rfl rfl rfl]
      simp [flagList, ColumnSpec.bare]
    · rw [TableColumn.withModifiers_hasDefault, defaulted]
      rfl
  primaryKey := by
    rw [TableColumn.withModifiers_primaryKey, flags _ rfl rfl rfl]
    simp [flagList, ColumnSpec.bare]
  unique := by
    rw [TableColumn.withModifiers_unique, flags _ rfl rfl rfl]
    simp [flagList, ColumnSpec.bare]
  defaulted := by
    rw [TableColumn.withModifiers_defaulted, defaulted]
    rfl
  defaultFn := by
    intro text listed
    obtain ⟨f, given⟩ := factory text listed
    exact TableColumn.withModifiers_factory given _
  reference := by rw [TableColumn.withModifiers_reference, reference]

/-! ## Data columns -/

/-- The modifier that types a column by its enum, if it has one. -/
def typedList (spec : ColumnSpec) : List Modifier := (spec.enumType.map fun e => Modifier.typed e.name).toList

/-- What a data field's column expression reads back as. -/
def dataRead (spec : ColumnSpec) (info : FieldInfo) : ColumnRead :=
  ⟨specCall spec, typedList spec ++ flagList info.modifiers ++ (defaultModifier info).toList⟩

theorem mem_typedList {spec : ColumnSpec} {m : Modifier} (listed : m ∈ typedList spec) :
    ∃ e ∈ spec.enumType, m = .typed e.name := by
  unfold typedList at listed
  rcases enumType : spec.enumType with _ | e
  · simp [enumType] at listed
  · simp only [enumType, Option.map_some, Option.toList_some, List.mem_singleton] at listed
    exact ⟨e, rfl, listed⟩

/-- Each modifier of a data column's expression is its type, one of its flags or its
default. -/
theorem mem_dataRead {spec : ColumnSpec} {info : FieldInfo} {m : Modifier}
    (listed : m ∈ (dataRead spec info).modifiers) :
    (∃ e ∈ spec.enumType, m = .typed e.name) ∨ m ∈ flagList info.modifiers ∨ defaultModifier info = some m := by
  simp only [dataRead, List.mem_append, Option.mem_toList] at listed
  rcases listed with (typed | flag) | default
  · exact .inl (mem_typedList typed)
  · exact .inr (.inl flag)
  · exact .inr (.inr default)

/-- A modifier that is neither a default nor a type is carried by a data column's
expression exactly when it is one of its flags. -/
theorem dataRead_has {m : Modifier} (plain : m.isDefault = false) (untyped : m.enumName? = none)
    (spec : ColumnSpec) (info : FieldInfo) : (dataRead spec info).has m = (flagList info.modifiers).contains m := by
  have notTyped : (typedList spec).contains m = false := by
    cases spec.enumType <;> cases m <;> simp_all [typedList, Modifier.enumName?]
  have notDefault : (defaultModifier info).toList.contains m = false := by
    rcases written : defaultModifier info with _ | d
    · rfl
    · have isDefault := defaultModifier_isDefault written
      simp only [Option.toList_some, List.contains_cons, List.contains_nil, Bool.or_false, beq_eq_false_iff_ne]
      rintro rfl
      rw [plain] at isDefault
      cases isDefault
  simp only [dataRead, ColumnRead.has, List.contains_append, notTyped, notDefault, Bool.false_or, Bool.or_false]

theorem dataRead_hasDefault (spec : ColumnSpec) (info : FieldInfo) :
    (dataRead spec info).hasDefault = info.modifiers.default.isSet := by
  have typed : (typedList spec).any Modifier.isDefault = false := by
    unfold typedList
    cases spec.enumType <;> rfl
  have flags : (flagList info.modifiers).any Modifier.isDefault = false :=
    List.any_eq_false.mpr fun m listed => by simp [(flagList_plain _ m listed).1]
  have default : (defaultModifier info).toList.any Modifier.isDefault = (defaultModifier info).isSome := by
    rcases written : defaultModifier info with _ | d
    · rfl
    · simp [defaultModifier_isDefault written]
  simp only [ColumnRead.hasDefault, dataRead, List.any_append, typed, flags, default, defaultModifier_isSome,
    Bool.false_or]

theorem dataRead_typedBy (spec : ColumnSpec) (info : FieldInfo) :
    (dataRead spec info).typedBy = spec.enumType.map (·.name) := by
  have flags : (flagList info.modifiers).findSome? Modifier.enumName? = none :=
    List.findSome?_eq_none_iff.mpr fun m listed => (flagList_plain _ m listed).2.1
  have default : (defaultModifier info).toList.findSome? Modifier.enumName? = none := by
    rcases written : defaultModifier info with _ | d
    · rfl
    · simp [(Modifier.plain_of_isDefault (defaultModifier_isDefault written)).1]
  rcases typed : spec.enumType with _ | e <;>
    simp [ColumnRead.typedBy, dataRead, typedList, typed, flags, default, List.findSome?_cons, Modifier.enumName?]

theorem dataRead_reference? (spec : ColumnSpec) (info : FieldInfo) : (dataRead spec info).reference? = none := by
  refine List.findSome?_eq_none_iff.mpr fun m listed => ?_
  rcases mem_dataRead listed with ⟨e, -, rfl⟩ | flag | written
  · rfl
  · exact (flagList_plain _ m flag).2.2
  · exact (Modifier.plain_of_isDefault (defaultModifier_isDefault written)).2

/-- A spec's column expression is its builder call, typed by its enum if it has one. -/
theorem columnSource_text (spec : ColumnSpec) :
    (columnSource spec).expression = (specCall spec).text ++ String.join ((typedList spec).map Modifier.text) := by
  obtain ⟨column, b, enumType⟩ := spec
  cases enumType with
  | none => simp [typedList, columnSource_call]
  | some e =>
    rw [columnSource_typed]
    simp [typedList, specCall, columnSource_call, String.append_assoc]

theorem dataRead_text (spec : ColumnSpec) (info : FieldInfo) :
    (applyModifiers (columnSource spec) info).expression = (dataRead spec info).text := by
  rw [applyModifiers_text, columnSource_text]
  simp [dataRead, ColumnRead.text, String.append_assoc]

theorem dataRead_wellFormed {spec : ColumnSpec} (typed : ∀ e ∈ spec.enumType, isIdentifier e.name = true)
    (info : FieldInfo) : (dataRead spec info).WellFormed where
  call := specCall_wellFormed spec
  modifiers := by
    intro m listed
    rcases mem_dataRead listed with ⟨e, named, rfl⟩ | flag | written
    · exact typed e named
    · exact Modifier.wellFormed_of_plain (flagList_plain _ m flag).2.1 (flagList_plain _ m flag).2.2
    · obtain ⟨untyped, noTarget⟩ := Modifier.plain_of_isDefault (defaultModifier_isDefault written)
      exact Modifier.wellFormed_of_plain untyped noTarget
  defaultLast := by
    -- the default, if any, is last: what stands before it is the type and the flags
    intro m listed
    rcases List.mem_append.mp (mem_of_mem_dropLast_append_toList listed) with typed | flag
    · obtain ⟨e, -, rfl⟩ := mem_typedList typed
      rfl
    · exact (flagList_plain _ m flag).1

theorem dataRead_describes (spec : ColumnSpec) (info : FieldInfo) :
    (dataRead spec info).Describes (spec.bare.withModifiers info.modifiers) := by
  refine describes_withModifiers rfl (fun f plain untyped _ => dataRead_has plain untyped spec info)
    (dataRead_hasDefault spec info) (fun text listed => ?_) (dataRead_reference? spec info)
  -- a default function comes only from the default modifier of a factory
  rcases mem_dataRead listed with ⟨e, -, typed⟩ | flag | written
  · cases typed
  · cases (flagList_plain _ _ flag).1
  · exact defaultModifier_defaultFn written

theorem modifiers_default_isSet (info : FieldInfo) :
    info.modifiers.default.isSet = (info.hasDefault && info.default.isSet) := by
  unfold FieldInfo.modifiers
  cases info.hasDefault <;> rfl

/-! ## Relation columns -/

/-- The modifiers of a relation's column, as those of a data column: a primary key,
or not null unless the field is nullable and unique for a one-to-one relation or a
unique field; no default. -/
def relationModifiers (info : FieldInfo) (d : RelationDescriptor) : Modifiers :=
  { primaryKey := info.primaryKey
    notNull := !info.null && !info.primaryKey
    unique := (d.kind == .oneToOne || info.unique) && !info.primaryKey
    default := .none }

/-- What a relation's column expression reads back as. -/
def relationRead (spec : ColumnSpec) (info : FieldInfo) (targetClassName : String) (d : RelationDescriptor) :
    ColumnRead :=
  ⟨specCall spec, .references ⟨targetClassName, d.references, Text.quote d.onDelete.text⟩ ::
    flagList (relationModifiers info d)⟩

/-- The column a relation stores its reference in, on both sides: a spec with no enum. -/
theorem referenceColumn_spec (info : FieldInfo) (log : List LogEntry) :
    ∃ spec after, spec.enumType = none ∧ (buildReferenceColumn info).run.run log = (.ok spec.bare, after) ∧
      (referenceSource info).run.run log = (.ok (columnSource spec), after) := by
  unfold buildReferenceColumn referenceSource
  dsimp only
  rcases info.asReference.internalType.columnKind? with _ | kind
  · exact ⟨⟨info.column, .integer, none⟩, _, rfl, rfl, rfl⟩
  · refine ⟨ColumnSpec.ofField kind info.asReference, log, ?_, rfl, rfl⟩
    rcases enumType : (ColumnSpec.ofField kind info.asReference).enumType with _ | e
    · rfl
    · have stored := ColumnSpec.ofField_enumType kind info.asReference e enumType
      simp [FieldInfo.asReference] at stored

/-- The column a relation is built into: its stored column, pointing at the target,
with the relation's modifiers. -/
theorem buildRelation_run {info : FieldInfo} {targetClassName : String} {d : RelationDescriptor}
    (described : info.describeRelation targetClassName = some d) (notMany : (d.kind == .manyToMany) = false)
    {spec : ColumnSpec} {log after : List LogEntry}
    (columnRun : (buildReferenceColumn info).run.run log = (.ok spec.bare, after)) :
    (buildRelation info targetClassName).run.run log =
      (.ok (some (d, some ({ spec.bare with
        reference := some ⟨targetClassName, info.relatedFieldName.getD "id", d.onDelete⟩ }.withModifiers
          (relationModifiers info d)))), after) := by
  unfold buildRelation
  simp only [described, notMany, Bool.false_eq_true, if_false]
  rw [Run.run_bind_of_ok columnRun]
  unfold relationModifiers
  cases info.primaryKey <;> cases info.null <;> cases (d.kind == .oneToOne || info.unique) <;> rfl

theorem reference_text (t : ReferenceRead) :
    ".references((): AnyPgColumn => " ++ t.className ++ "." ++ t.key ++ ", \x7b onDelete: " ++ t.onDelete ++
      " \x7d)" = (Modifier.references t).text := by
  simp [referenceArrow, deleteRuleKey]

/-- The expression a relation is rendered into: its stored column's call, the
reference and the relation's flags. -/
theorem renderRelationField_run {info : FieldInfo} {targetClassName : String} {d : RelationDescriptor}
    (described : info.describeRelation targetClassName = some d) (notMany : (d.kind == .manyToMany) = false)
    {spec : ColumnSpec} (untyped : spec.enumType = none) {log after : List LogEntry}
    (sourceRun : (referenceSource info).run.run log = (.ok (columnSource spec), after)) :
    ∃ s, (renderRelationField info targetClassName).run.run log = (.ok (some (d, some s)), after) ∧
      s.expression = (relationRead spec info targetClassName d).text := by
  unfold renderRelationField
  simp only [described, notMany, Bool.false_eq_true, if_false]
  rw [Run.run_bind_of_ok sourceRun]
  refine ⟨_, rfl, ?_⟩
  have flags : (if info.primaryKey then ".primaryKey()" else (if !info.null then ".notNull()" else "") ++
      (if d.kind == .oneToOne || info.unique then ".unique()" else "")) =
        flagModifiers (relationModifiers info d) := by
    unfold flagModifiers relationModifiers
    cases info.primaryKey <;> cases info.null <;> cases (d.kind == .oneToOne || info.unique) <;> rfl
  obtain ⟨column, b, enumType⟩ := spec
  cases untyped
  dsimp only
  rw [flags, flagModifiers_text, reference_text ⟨targetClassName, d.references, Text.quote d.onDelete.text⟩,
    columnSource_call]
  simp [relationRead, ColumnRead.text, String.append_assoc]

theorem relationRead_has {m : Modifier} (noTarget : m.target? = none) (spec : ColumnSpec) (info : FieldInfo)
    (targetClassName : String) (d : RelationDescriptor) :
    (relationRead spec info targetClassName d).has m = (flagList (relationModifiers info d)).contains m := by
  have differs : (m == .references ⟨targetClassName, d.references, Text.quote d.onDelete.text⟩) = false := by
    rw [beq_eq_false_iff_ne]
    rintro rfl
    cases noTarget
  simp only [relationRead, ColumnRead.has, List.contains_cons, differs, Bool.false_or]

theorem relationRead_hasDefault (spec : ColumnSpec) (info : FieldInfo) (targetClassName : String)
    (d : RelationDescriptor) : (relationRead spec info targetClassName d).hasDefault = false :=
  List.any_eq_false.mpr fun m listed => by
    rcases List.mem_cons.mp listed with rfl | flag
    · simp [Modifier.isDefault]
    · simp [(flagList_plain _ m flag).1]

theorem relationRead_wellFormed {spec : ColumnSpec} {info : FieldInfo} {targetClassName : String}
    {d : RelationDescriptor} (targetNamed : isIdentifier targetClassName = true)
    (keyNamed : isIdentifier d.references = true) : (relationRead spec info targetClassName d).WellFormed where
  call := specCall_wellFormed spec
  modifiers := by
    intro m listed
    rcases List.mem_cons.mp listed with rfl | flag
    · exact ⟨targetNamed, keyNamed, _, rfl⟩
    · exact Modifier.wellFormed_of_plain (flagList_plain _ m flag).2.1 (flagList_plain _ m flag).2.2
  defaultLast := by
    intro m listed
    rcases List.mem_cons.mp (List.dropLast_subset _ listed) with rfl | flag
    · rfl
    · exact (flagList_plain _ m flag).1

theorem relationRead_describes (spec : ColumnSpec) {info : FieldInfo} {targetClassName : String}
    {d : RelationDescriptor} (references : d.references = info.relatedFieldName.getD "id") :
    (relationRead spec info targetClassName d).Describes ({ spec.bare with
      reference := some ⟨targetClassName, info.relatedFieldName.getD "id", d.onDelete⟩ }.withModifiers
        (relationModifiers info d)) := by
  refine describes_withModifiers rfl (fun f _ _ noTarget => relationRead_has noTarget spec info targetClassName d)
    (relationRead_hasDefault spec info targetClassName d) (fun text listed => ?_) ?_
  · -- neither the reference nor a flag is a default function
    rcases List.mem_cons.mp listed with absurd | flag
    · cases absurd
    · cases (flagList_plain _ _ flag).1
  · simp [relationRead, ColumnRead.reference?, List.findSome?_cons, Modifier.target?, references]

end Code

/-! ## Both renderers -/

section Agreement

open Code

/-- A data field's column and its expression agree: both runs log alike, a column is
built exactly when an expression is rendered, and for a field whose kind has a
builder the expression reads back as a description of the column, typed by the enum
of its spec, with a default modifier exactly when the field declares a default, and
the text of a literal default that has one standing for the column's default value. -/
def DataColumnReadsBack (info : FieldInfo) (log : List LogEntry) : Prop :=
  ∃ column source after, (buildDataColumn info).run.run log = (.ok column, after) ∧
    (renderDataField info).run.run log = (.ok source, after) ∧ column.isSome = source.isSome ∧
    ∀ kind, info.internalType.columnKind? = some kind → ∃ c s r, column = some c ∧ source = some s ∧
      readColumn s.expression = some r ∧ r.Describes c ∧
      r.typedBy = (ColumnSpec.ofField kind info).enumType.map (·.name) ∧
      r.hasDefault = (info.hasDefault && info.default.isSet) ∧
      ∀ v text, info.modifiers.default = .literal v → literalText? info v = some text →
        c.default = some v ∧ .default text ∈ r.modifiers

theorem dataColumn_reads_back {info : FieldInfo} (typed : ∀ e ∈ info.enumType, isIdentifier e.name = true)
    (log : List LogEntry) : DataColumnReadsBack info log := by
  unfold DataColumnReadsBack buildDataColumn renderDataField
  rcases kinded : info.internalType.columnKind? with _ | kind
  · exact ⟨none, none, _, rfl, rfl, rfl, fun _ absent => by cases absent⟩
  · refine ⟨_, _, log, rfl, rfl, rfl, fun k same => ?_⟩
    cases same
    have specTyped : ∀ e ∈ (ColumnSpec.ofField kind info).enumType, isIdentifier e.name = true :=
      fun e listed => typed e (ColumnSpec.ofField_enumType kind info e listed)
    refine ⟨_, _, dataRead (ColumnSpec.ofField kind info) info, rfl, rfl, ?_, dataRead_describes _ _,
      dataRead_typedBy _ _, ?_, ?_⟩
    · rw [dataRead_text]
      exact readColumn_complete (dataRead_wellFormed specTyped info)
    · rw [dataRead_hasDefault, modifiers_default_isSet]
    · intro v text given written
      exact ⟨TableColumn.withModifiers_literal given _, by simp [dataRead, defaultModifier_literal given written]⟩

/-- A relation field's descriptor and column and its expression agree: both runs log
alike and give the same descriptor, a column on both sides or on neither, and the
expression reads back as a description of the built column. -/
def RelationReadsBack (info : FieldInfo) (targetClassName : String) (log : List LogEntry) : Prop :=
  ∃ built rendered after, (buildRelation info targetClassName).run.run log = (.ok built, after) ∧
    (renderRelationField info targetClassName).run.run log = (.ok rendered, after) ∧
    built.map (fun r => (r.1, r.2.isSome)) = rendered.map (fun r => (r.1, r.2.isSome)) ∧
    ∀ d c s, built = some (d, some c) → rendered = some (d, some s) →
      ∃ r, readColumn s.expression = some r ∧ r.Describes c

theorem relation_reads_back {info : FieldInfo} {targetClassName : String}
    (targetNamed : isIdentifier targetClassName = true)
    (keyNamed : isIdentifier (info.relatedFieldName.getD "id") = true) (log : List LogEntry) :
    RelationReadsBack info targetClassName log := by
  rcases described : info.describeRelation targetClassName with _ | d
  · -- no descriptor: both runs warn and give nothing
    unfold RelationReadsBack buildRelation renderRelationField
    rw [described]
    exact ⟨none, none, _, rfl, rfl, rfl, fun _ _ _ built => by cases built⟩
  · cases manyToMany : d.kind == .manyToMany
    · obtain ⟨spec, after, untyped, columnRun, sourceRun⟩ := referenceColumn_spec info log
      obtain ⟨s, rendered, written⟩ := renderRelationField_run described manyToMany untyped sourceRun
      have references := (FieldInfo.describeRelation_eq_some described).2.1
      refine ⟨_, _, after, buildRelation_run described manyToMany columnRun, rendered, rfl, ?_⟩
      rintro d' c s' ⟨⟩ ⟨⟩
      refine ⟨_, ?_, relationRead_describes spec references⟩
      rw [written]
      exact readColumn_complete (relationRead_wellFormed targetNamed (references ▸ keyNamed))
    · -- a many-to-many relation has no column
      unfold RelationReadsBack buildRelation renderRelationField
      simp only [described, manyToMany, if_true]
      exact ⟨_, _, log, rfl, rfl, rfl, fun _ _ _ built => by cases built⟩

/-- Every field's data column and relation column read back from their expressions,
when the names the expressions write bare are identifiers. -/
theorem columns_read_back_alike (info : FieldInfo) (targetClassName : String) (log : List LogEntry)
    (typed : ∀ e ∈ info.enumType, isIdentifier e.name = true) (targetNamed : isIdentifier targetClassName = true)
    (keyNamed : isIdentifier (info.relatedFieldName.getD "id") = true) :
    DataColumnReadsBack info log ∧ RelationReadsBack info targetClassName log :=
  ⟨dataColumn_reads_back typed log, relation_reads_back targetNamed keyNamed log⟩

/-- A one-to-one field `c` of a model `B`, stored in the column `c_id` and pointing at
the integer field `key` of the model `C`. -/
def oneToOneField (key : String) : FieldInfo :=
  { name := "c", internalType := .named "OneToOneField", column := "c_id", primaryKey := false, null := false
    unique := false, hasDefault := false, default := .none, maxLength := none, maxDigits := none
    decimalPlaces := none, dbIndex := false, choices := none, enumType := none, isRelation := true
    relatedModel := some "a.C", onDelete := none, relatedName := none, isSelfReferential := false
    relatedFieldName := some key, relatedFieldKind := some (.named "IntegerField"), relatedFieldMaxLength := none
    relatedFieldVia := [], manyToMany := false, throughModel := none, throughDbTable := none }

theorem columns_read_back_on_one_to_one :
    (∀ e ∈ (oneToOneField "number").enumType, isIdentifier e.name = true) ∧ isIdentifier "CTable" = true ∧
      isIdentifier ((oneToOneField "number").relatedFieldName.getD "id") = true ∧
      DataColumnReadsBack (oneToOneField "number") [] ∧ RelationReadsBack (oneToOneField "number") "CTable" [] := by
  have untyped : ∀ e ∈ (oneToOneField "number").enumType, isIdentifier e.name = true := by
    intro e typed
    simp [oneToOneField] at typed
  exact ⟨untyped, by decide, by decide, columns_read_back_alike _ "CTable" [] untyped (by decide) (by decide)⟩

/-- The one-to-one field to `C.order-no` is built into a column referencing the key
`order-no`, and written `CTable.order-no`, which does not read back. -/
theorem reference_to_dashed_key_unread :
    ∃ built rendered after,
      (buildRelation (oneToOneField "order-no") "CTable").run.run [] = (.ok built, after) ∧
      (renderRelationField (oneToOneField "order-no") "CTable").run.run [] = (.ok rendered, after) ∧
      ∃ d c s, built = some (d, some c) ∧ rendered = some (d, some s) ∧
        c.reference.map (·.key) = some "order-no" ∧
        s.expression = "integer(\"c_id\").references((): AnyPgColumn => CTable.order-no, \x7b onDelete: \"cascade\" \x7d).notNull().unique()" ∧
        readColumn s.expression = none := by
  refine ⟨_, _, _, rfl, rfl, _, _, _, rfl, rfl, rfl, ?_, ?_⟩
  · decide +kernel
  · decide +kernel

end Agreement

end ModelTables
