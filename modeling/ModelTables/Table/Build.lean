import ModelTables.Plan.Fields
import ModelTables.Keyed

/-! # Built tables

`buildModel` turns one planned model into a table description: its columns
keyed by field name in object order, the uniqueness groups that survived, and a
metadata block with the relations.  A column records what the table builders
report about it:

* the SQL type of its builder;
* `notNull`: set by a not-null modifier, by a primary key and by every serial
  builder;
* `hasDefault`: set by a plain default, by a default function and by every serial
  builder; a plain default keeps its value (an enum member stores its value);
* `enumValues`: the values of a bounded text built from an enum with members.

A relation column also records the column it references, by class name and
column key.  References are looked up only when foreign keys are listed, against
the tables of the same round, so the order of declaration does not matter.
-/

namespace ModelTables

/-- The column a reference points at, by class name and column key. -/
structure ColumnTarget where
  className : String
  key : String
  onDelete : OnDelete
  deriving Inhabited

/-- A built column. -/
structure TableColumn where
  /-- The column's name; an empty name is replaced by the key. -/
  name : String
  sqlType : String
  notNull : Bool
  primaryKey : Bool := false
  unique : Bool := false
  hasDefault : Bool
  defaultFn : Bool := false
  enumValues : Option (List String)
  /-- The value of a plain default. -/
  default : Option Value := none
  reference : Option ColumnTarget := none
  deriving Inhabited

/-- A built table: columns by key, and uniqueness groups as column keys. -/
structure Table where
  name : String
  columns : Keyed TableColumn
  uniqueGroups : List (List String)
  deriving Inhabited

/-- The metadata block of a built model. -/
structure TableMeta where
  table : String
  app : String
  uniqueTogether : List (List String)
  relations : Keyed RelationDescriptor
  deriving Inhabited

/-- One built model. -/
structure BuiltModel where
  className : String
  label : String
  table : Table
  metadata : TableMeta
  /-- Column keys and many-to-many relation names, in field order. -/
  fieldNames : List String
  deriving Inhabited

/-- The bare column of a spec. -/
def ColumnSpec.bare (spec : ColumnSpec) : TableColumn :=
  let serial := spec.builder.isSerial
  let enumValues := match spec.builder with
    | .varchar _ (v :: vs) => some (v :: vs)
    | _ => none
  { name := spec.column, sqlType := spec.builder.sqlType, notNull := serial, hasDefault := serial
    enumValues }

/-- Mark a column as the primary key, which also makes it not null. -/
def TableColumn.asPrimaryKey (c : TableColumn) : TableColumn :=
  { c with primaryKey := true, notNull := true }

/-- Add the modifiers of a data field to its bare column. -/
def TableColumn.withModifiers (c : TableColumn) (m : Modifiers) : TableColumn :=
  let c := if m.primaryKey then c.asPrimaryKey else c
  let c := if m.notNull then { c with notNull := true } else c
  let c := if m.unique then { c with unique := true } else c
  match m.default with
  | .none => c
  | .literal v => { c with hasDefault := true, default := some v }
  | .member _ member => { c with hasDefault := true, default := some member.value.toValue }
  | .factory _ => { c with hasDefault := true, defaultFn := true }

/-- The column of a data field, or `none` (with a warning) for a kind without a
builder. -/
def buildDataColumn (info : FieldInfo) : Run (Option TableColumn) :=
  match info.internalType.columnKind? with
  | some kind => pure (some ((ColumnSpec.ofField kind info).bare.withModifiers info.modifiers))
  | none => do
    Run.warn ("Unsupported field type '" ++ info.internalType.text ++ "' on field '" ++ info.name ++
      "'. Skipping.")
    pure none

/-- The bare column that stores a reference. -/
def buildReferenceColumn (info : FieldInfo) : Run TableColumn :=
  let ref := info.asReference
  match ref.internalType.columnKind? with
  | some kind => pure (ColumnSpec.ofField kind ref).bare
  | none => do
    Run.warn ("Referenced field kind '" ++ ref.internalType.text ++ "' of '" ++ info.name ++
      "' has no converter; storing as integer.")
    pure { name := info.column, sqlType := "integer", notNull := false, hasDefault := false
           enumValues := none }

/-- A relation field: its descriptor, and its column unless it is many-to-many;
`none` (with a warning) for a relation kind without a descriptor. -/
def buildRelation (info : FieldInfo) (targetClassName : String) :
    Run (Option (RelationDescriptor × Option TableColumn)) := do
  match info.describeRelation targetClassName with
  | none =>
    Run.warn ("Unsupported relation type '" ++ info.internalType.text ++ "' on field '" ++ info.name ++
      "'. Skipping.")
    pure none
  | some d =>
    if d.kind == .manyToMany then pure (some (d, none))
    else
      let base ← buildReferenceColumn info
      let column := { base with
        reference := some { className := targetClassName, key := info.relatedFieldName.getD "id"
                            onDelete := d.onDelete } }
      let column := if info.primaryKey then column.asPrimaryKey
        else
          let column := if !info.null then { column with notNull := true } else column
          if d.kind == .oneToOne || info.unique then { column with unique := true } else column
      pure (some (d, some column))

/-- What building the fields of a model accumulates. -/
structure TableParts where
  columns : Keyed TableColumn := []
  relations : Keyed RelationDescriptor := []
  fieldNames : List String := []
  dataFields : Nat := 0

/-- Build one planned field into the accumulated parts. -/
def addColumn (parts : TableParts) : FieldPlan → Run TableParts
  | .data info => do
    match ← buildDataColumn info with
    | none => pure parts
    | some column =>
      pure { parts with columns := Keyed.assign parts.columns info.name column
                        fieldNames := parts.fieldNames ++ [info.name]
                        dataFields := parts.dataFields + 1 }
  | .relation info _ targetClassName => do
    match ← buildRelation info targetClassName with
    | none => pure parts
    | some (d, column) =>
      let columns := match column with
        | some c => Keyed.assign parts.columns info.name c
        | none => parts.columns
      pure { parts with columns, relations := Keyed.assign parts.relations info.name d
                        fieldNames := parts.fieldNames ++ [info.name] }

/-- Build one planned model, or `none` when no data field converts. -/
def buildModel (appName : String) (names : ClassNames) (model : ModelPlan) :
    Run (Option BuiltModel) := do
  let plans ← planFields model names
  let parts ← plans.foldlM addColumn {}
  if parts.dataFields == 0 then return none
  let uniqueTogether ← retainUniqueTogether model parts.columns.keys
  let columns := parts.columns.map fun (key, c) =>
    (key, if c.name.isEmpty then { c with name := key } else c)
  let table : Table := { name := model.info.dbTable, columns, uniqueGroups := uniqueTogether }
  let metadata : TableMeta :=
    { table := model.info.dbTable, app := appName, uniqueTogether, relations := parts.relations }
  return some { className := model.className, label := model.label, table, metadata
                fieldNames := parts.fieldNames }

/-- A resolved foreign key: column names on both sides. -/
structure ForeignKey where
  columns : List String
  foreignTable : String
  foreignColumns : List String
  onDelete : OnDelete
  deriving Inhabited

/-- The column a reference points at, among the models of a round. -/
def ColumnTarget.resolve (target : ColumnTarget) (round : List BuiltModel) :
    Except Failure (String × TableColumn) :=
  match round.find? (·.className == target.className) with
  | none => .error (.tableNotBuilt target.className)
  | some model =>
    match Keyed.get? model.table.columns target.key with
    | some column => .ok (model.table.name, column)
    | none => .error (.columnMissing target.className target.key)

/-- The foreign keys of a table in column order, each resolved against the round
or the failure of its lookup. -/
def Table.foreignKeys (t : Table) (round : List BuiltModel) : List (Except Failure ForeignKey) :=
  t.columns.filterMap fun (_, column) =>
    column.reference.map fun target =>
      (target.resolve round).map fun (foreignTable, foreign) =>
        { columns := [column.name], foreignTable, foreignColumns := [foreign.name]
          onDelete := target.onDelete }

/-- The uniqueness constraints of a table, as column names. -/
def Table.uniqueConstraints (t : Table) : List (List String) :=
  t.uniqueGroups.map fun group =>
    group.filterMap fun key => (Keyed.get? t.columns key).map (·.name)

end ModelTables
