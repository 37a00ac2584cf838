import ModelTables.Report.Generate

/-! # Reports of built tables

The document forms of built columns, tables, metadata blocks and registries.
Foreign keys are resolved against the models built with the table; a lookup that
fails is reported as its failure.
-/

namespace ModelTables.Report

/-- The report of a built column under its key. -/
def column (key : String) (c : TableColumn) : Value :=
  .obj [("key", .string key), ("name", .string c.name), ("sqlType", .string c.sqlType),
    ("notNull", .bool c.notNull), ("primaryKey", .bool c.primaryKey), ("unique", .bool c.unique),
    ("hasDefault", .bool c.hasDefault), ("defaultFn", .bool c.defaultFn),
    ("enumValues", match c.enumValues with
      | some vs => texts vs
      | none => .null),
    ("default", (c.default.map carried).getD .undefined)]

/-- The report of a foreign key, or of the failure to resolve it. -/
def foreignKey : Except Failure ForeignKey → Value
  | .ok fk => .obj [("columns", texts fk.columns), ("foreignTable", .string fk.foreignTable),
      ("foreignColumns", texts fk.foreignColumns), ("onDelete", .string fk.onDelete.text)]
  | .error f => failure f

/-- The report of a table built in a round. -/
def table (t : Table) (round : List BuiltModel) : Value :=
  .obj [("name", .string t.name), ("columns", .array (t.columns.map fun (k, c) => column k c)),
    ("foreignKeys", .array ((t.foreignKeys round).map foreignKey)),
    ("uniqueConstraints", .array (t.uniqueConstraints.map texts))]

/-- The report of a relation descriptor. -/
def relationDescriptor (d : RelationDescriptor) : Value :=
  .obj [("kind", .string d.kind.name), ("target", .string d.target),
    ("references", .string d.references), ("onDelete", .string d.onDelete.text),
    ("relatedName", match d.relatedName with
      | some n => .string n
      | none => .bool false),
    ("through", textOrNull d.through)]

/-- The report of a metadata block. -/
def tableMeta (m : TableMeta) : Value :=
  .obj [("table", .string m.table), ("app", .string m.app),
    ("uniqueTogether", .array (m.uniqueTogether.map texts)),
    ("relations", .object (m.relations.map fun (k, d) => (k, relationDescriptor d)))]

/-- The report of a built model among the models of its round. -/
def builtModel (round : List BuiltModel) (m : BuiltModel) : Value :=
  .obj [("className", .string m.className), ("label", .string m.label), ("meta", tableMeta m.metadata),
    ("fieldNames", texts m.fieldNames), ("table", table m.table round)]

/-- The report of the registry of built models: the pairs, and for every model of
the schema its class name and the label registered back for it. -/
def builtRegistry (r : Registry) (labels : List String) : Value :=
  .obj [("size", .number r.size.toFloat),
    ("mappings", .array (r.allEntries.map fun e => texts [e.label, e.target, e.source])),
    ("inverse", .array (labels.map fun label =>
      let target := r.target? label
      .array [.string label, textOrNull target, textOrNull (target.bind r.source?)]))]

/-- The report of built tables, with the labels of every model of the schema. -/
def builtTables (b : BuiltTables) (labels : List String) : Value :=
  .obj [("models", .array (b.models.map (builtModel b.models))),
    ("skipped", .array (b.skipped.map skipped)), ("failed", .array (b.failed.map skipped)),
    ("registry", builtRegistry b.registry labels)]

/-- The report of a registry reply. -/
def registryReply : RegistryReply → Value
  | .changed n => .obj [("size", .number n.toFloat)]
  | .name v => textOrNull v
  | .entry (some e) =>
    .obj [("source", .string e.source), ("target", .string e.target), ("label", .string e.label)]
  | .entry none => .null
  | .names vs => texts vs
  | .entries es => .array (es.map fun e => texts [e.label, e.source, e.target])
  | .flag b => .bool b
  | .count n => .number n.toFloat

end ModelTables.Report
