import ModelTables.Report.Basic
import ModelTables.Schema.Basic

/-! # Reports of manifests and schemas

The document forms of read manifests and built schemas.  A default is reported as
a descriptor: `{"kind": "none"}`, `{"kind": "literal", "value": v}`,
`{"kind": "enum", "enum", "member", "value", "label"}` or
`{"kind": "factory", "name"}` (with `name` null for an inherited function).
-/

namespace ModelTables.Report

/-- The report of a choice value. -/
def choiceValue (v : ChoiceValue) : Value := carried v.toValue

/-- The report of a default. -/
def preset : Preset → Value
  | .none => .obj [("kind", .string "none")]
  | .literal v => .obj [("kind", .string "literal"), ("value", carried v)]
  | .member _ m => .obj [("kind", .string "enum"), ("enum", .string m.enumName),
      ("member", .string m.name), ("value", choiceValue m.value), ("label", .string m.label)]
  | .factory f => .obj [("kind", .string "factory"), ("name", textOrNull f.name?)]

/-- The report of declared choices. -/
def choicesDecl : ChoicesDecl → Value
  | .pairs ps => .array (ps.map fun (v, l) => .array [choiceValue v, .string l])
  | .ofEnum _ declared => carried (.object declared)

/-- The report of a field declaration. -/
def fieldDecl (f : FieldDecl) : Value :=
  .obj [("name", .string f.name), ("kind", .string f.kind),
    ("column", textOrUndefined f.column), ("primaryKey", flagOrUndefined f.primaryKey),
    ("null", flagOrUndefined f.null), ("unique", flagOrUndefined f.unique),
    ("dbIndex", flagOrUndefined f.dbIndex), ("hasDefault", .bool f.hasDefault),
    ("default", match f.default with
      | some v => preset (.literal v)
      | none => preset .none),
    ("maxLength", numberOrUndefined f.maxLength), ("maxDigits", numberOrUndefined f.maxDigits),
    ("decimalPlaces", numberOrUndefined f.decimalPlaces),
    ("choices", (f.choices.map choicesDecl).getD .undefined),
    ("to", textOrUndefined f.relatedTo), ("onDelete", textOrUndefined f.onDelete),
    ("relatedName", textOrUndefined f.relatedName), ("toField", textOrUndefined f.toField),
    ("through", textOrUndefined f.through), ("throughTable", textOrUndefined f.throughTable)]

/-- The report of a model declaration. -/
def modelDecl (m : ModelDecl) : Value :=
  .obj [("app", .string m.app), ("name", .string m.name), ("table", textOrUndefined m.table),
    ("abstract", flagOrUndefined m.abstract), ("proxy", flagOrUndefined m.proxy),
    ("managed", flagOrUndefined m.managed), ("module", textOrUndefined m.module),
    ("uniqueTogether", (m.uniqueTogether.map fun groups => .array (groups.map texts)).getD .undefined),
    ("fields", .array (m.fields.map fieldDecl))]

/-- The report of a member declaration. -/
def memberDecl : MemberDecl → Value
  | .bare v => choiceValue v
  | .labelled v label => .obj [("value", choiceValue v), ("label", textOrUndefined label)]

/-- The report of a read manifest. -/
def manifest (m : Manifest) : Value :=
  .obj [("defaultAutoField", .string m.defaultAutoField),
    ("enums", .array (m.enums.map fun e =>
      .obj [("name", .string e.name), ("module", .string e.module),
        ("members", .array (e.members.map fun (k, d) => .array [.string k, memberDecl d]))])),
    ("models", .array (m.models.map modelDecl))]

/-- The report of a list of choices, `null` when there are none. -/
def choices : Option (List (ChoiceValue × String)) → Value
  | some ps => .array (ps.map fun (v, l) => .array [choiceValue v, .string l])
  | none => .null

/-- The report of a relation. -/
def relation : Option Relation → Value
  | some r => .obj [("model", .string r.model), ("onDelete", textOrNull r.onDelete),
      ("relatedName", textOrNull r.relatedName), ("toField", textOrNull r.toField),
      ("through", textOrNull r.through), ("throughTable", textOrNull r.throughTable)]
  | none => .null

/-- The report of a built field. -/
def field (f : Field) : Value :=
  .obj [("name", .string f.name), ("kind", .string f.kind), ("model", .string f.model),
    ("column", textOrNull f.column), ("concrete", .bool f.concrete),
    ("manyToMany", .bool f.manyToMany), ("reverse", .bool f.reverse),
    ("primaryKey", .bool f.primaryKey), ("null", .bool f.null), ("unique", .bool f.unique),
    ("dbIndex", .bool f.dbIndex), ("hasDefault", .bool f.hasDefault),
    ("default", if f.hasDefault then preset f.default else preset .none),
    ("maxLength", numberOrNull f.maxLength), ("maxDigits", numberOrNull f.maxDigits),
    ("decimalPlaces", numberOrNull f.decimalPlaces), ("choices", choices f.choices),
    ("relation", relation f.relation)]

/-- The report of a model's metadata. -/
def modelMeta (m : ModelMeta) : Value :=
  .obj [("appLabel", .string m.appLabel), ("objectName", .string m.objectName),
    ("modelName", .string m.modelName), ("module", .string m.module),
    ("dbTable", .string m.dbTable), ("abstract", .bool m.abstract), ("proxy", .bool m.proxy),
    ("managed", .bool m.managed), ("uniqueTogether", .array (m.uniqueTogether.map texts)),
    ("pkName", .string m.pkName)]

/-- The report of a built schema. -/
def schema (s : Schema) : Value :=
  .obj [("models", .array (s.models.map fun m =>
    .obj [("label", .string m.label), ("meta", modelMeta m.header),
      ("fields", .array (m.fields.map field))]))]

end ModelTables.Report
