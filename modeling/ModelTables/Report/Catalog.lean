import ModelTables.Report.Schema
import ModelTables.Catalog.Describe

/-! # Reports of model descriptions

The document forms of field and model descriptions; an enum is reported with its
value type (`integer` when every value is a number) and its members as
`[name, value, label]`.
-/

namespace ModelTables.Report

/-- The report of an enum type. -/
def enumType : Option EnumType → Value
  | some e => .obj [("name", .string e.name), ("module", .string e.module),
      ("valueType", .string (if e.isNumeric then "integer" else "string")),
      ("members", .array (e.members.map fun m =>
        .array [.string m.name, choiceValue m.value, .string m.label]))]
  | none => .null

/-- A mapped kind as plain JSON writes it: a name as text; an inherited method
has no JSON text, so its member is left out; the prototype is an empty object. -/
def mappedKind : MappedKind → Value
  | .named kind => .string kind
  | .inherited m => .inherited m

/-- The report of a field description. -/
def fieldInfo (f : FieldInfo) : Value :=
  .obj [("name", .string f.name), ("internalType", mappedKind f.internalType),
    ("column", .string f.column), ("primaryKey", .bool f.primaryKey), ("null", .bool f.null),
    ("unique", .bool f.unique), ("hasDefault", .bool f.hasDefault),
    ("default", if f.hasDefault then preset f.default else preset .none),
    ("maxLength", numberOrNull f.maxLength), ("maxDigits", numberOrNull f.maxDigits),
    ("decimalPlaces", numberOrNull f.decimalPlaces), ("dbIndex", .bool f.dbIndex),
    ("choices", choices f.choices), ("enumType", enumType f.enumType),
    ("isRelation", .bool f.isRelation), ("relatedModel", textOrNull f.relatedModel),
    ("relatedModelLabel", textOrNull f.relatedModel), ("onDelete", textOrNull f.onDelete),
    ("relatedName", textOrNull f.relatedName), ("isSelfReferential", .bool f.isSelfReferential),
    ("relatedFieldName", textOrNull f.relatedFieldName),
    ("relatedFieldKind", match f.relatedFieldKind with
      | some k => mappedKind k
      | none => .null),
    ("relatedFieldMaxLength", numberOrNull f.relatedFieldMaxLength),
    ("relatedFieldVia", texts f.relatedFieldVia), ("manyToMany", .bool f.manyToMany),
    ("throughModel", textOrNull f.throughModel), ("throughDbTable", textOrNull f.throughDbTable)]

/-- The report of a model description. -/
def modelInfo (m : ModelInfo) : Value :=
  .obj [("identity", .string m.identity), ("appLabel", .string m.appLabel),
    ("modelName", .string m.modelName), ("objectName", .string m.objectName),
    ("module", .string m.module), ("dbTable", .string m.dbTable),
    ("fields", .array (m.fields.map fieldInfo)),
    ("uniqueTogether", .array (m.uniqueTogether.map texts)), ("isAbstract", .bool m.isAbstract),
    ("isProxy", .bool m.isProxy), ("isManaged", .bool m.isManaged), ("pkName", .string m.pkName)]

/-- The report of a described model with its skip decision. -/
def described (m : ModelInfo) : Value :=
  .obj [("info", modelInfo m), ("skip", .bool m.skipReason?.isSome),
    ("reason", .string (m.skipReason?.getD ""))]

end ModelTables.Report
