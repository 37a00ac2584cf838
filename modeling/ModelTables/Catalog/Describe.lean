import ModelTables.Catalog.Basic

/-! # Describing models

`Schema.describe` turns a built model into its description:

* reverse fields are left out, and so is every other field without a column except
  a forward many-to-many field;
* a field's enum is known only when it has choices and its default is a member of
  an enum;
* for a relation, the referenced field is `toField`, else the target's primary key.
  The stored kind follows concrete, non-many-to-many relation fields from target
  to target (`resolveStored`), listing the models passed; a missing field or a
  field met twice gives no kind.

`ModelInfo.skipReason?` says why a model gets no table: it is abstract (checked
first), a proxy, or has no described fields.
-/

namespace ModelTables

namespace Schema

/-- The first field of a model with a column and the given name. -/
def storedField? (schema : Schema) (label : String) (name : String) : Option Field :=
  (schema.model? label).bind fun m => m.fields.find? fun f => f.name == name && f.concrete

/-- The field a relation references on its target: `toField`, else the target's
primary-key name. -/
def referencedName (schema : Schema) (target : String) (toField : Option String) : String :=
  toField.getD (((schema.model? target).map (·.header.pkName)).getD "id")

/-- The result of following references to the column that stores a value. -/
structure Stored where
  kind : Option MappedKind
  maxLength : Option Float
  via : List String
  deriving Inhabited

/-- Follow references from `current`: a relation field that is not many-to-many
hands on to its own referenced field; `seen` holds the fields passed, as
`(model, name)`; `fuel` bounds the steps. -/
def walkStored (schema : Schema) (kinds : Option KindMap) :
    Nat → Option Field → List (String × String) → List String → Stored
  | 0, _, _, via => ⟨none, none, via⟩
  | _ + 1, none, _, via => ⟨none, none, via⟩
  | fuel + 1, some field, seen, via =>
    match field.relation with
    | some relation =>
      if field.manyToMany then ⟨some (mapKind kinds field.kind), field.maxLength, via⟩
      else if seen.contains (field.model, field.name) then ⟨none, none, via⟩
      else
        let next := schema.storedField? relation.model
          (schema.referencedName relation.model relation.toField)
        walkStored schema kinds fuel next ((field.model, field.name) :: seen) (via ++ [relation.model])
    | none => ⟨some (mapKind kinds field.kind), field.maxLength, via⟩

/-- The number of fields of a schema: a bound on the steps of any walk. -/
def fieldCount (schema : Schema) : Nat := (schema.models.map (·.fields.length)).foldr (· + ·) 0

/-- The stored column behind field `name` of model `target`. -/
def resolveStored (schema : Schema) (kinds : Option KindMap) (target name : String) : Stored :=
  walkStored schema kinds (schema.fieldCount + 1) (schema.storedField? target name) [] []

/-- The enum of a field: known when it has choices and its default is an enum member. -/
def enumOf (field : Field) : Option EnumType :=
  match field.choices, field.default with
  | some (_ :: _), .member e _ => if field.hasDefault then some e else none
  | _, _ => none

/-- The description of a field; `none` for a field that gets no column. -/
def describeField (schema : Schema) (kinds : Option KindMap) (field : Field) : Option FieldInfo :=
  if !field.concrete && !field.manyToMany then none
  else if field.manyToMany && field.reverse then none
  else
    let relatedModel := field.relation.map (·.model)
    let relatedFieldName := field.relation.map fun r => schema.referencedName r.model r.toField
    let stored := match field.relation, relatedFieldName with
      | some r, some name => schema.resolveStored kinds r.model name
      | _, _ => ⟨none, none, []⟩
    let throughModel := field.relation.bind (·.through)
    some
      { name := field.name
        internalType := mapKind kinds field.kind
        column := match field.column with
          | some c => if c.isEmpty then field.name else c
          | none => field.name
        primaryKey := field.primaryKey
        null := field.null
        unique := field.unique
        hasDefault := field.hasDefault
        default := field.default
        maxLength := field.maxLength
        maxDigits := field.maxDigits
        decimalPlaces := field.decimalPlaces
        dbIndex := field.dbIndex
        choices := match field.choices with
          | some (c :: cs) => some (c :: cs)
          | _ => none
        enumType := enumOf field
        isRelation := field.relation.isSome
        relatedModel
        onDelete := field.relation.bind (·.onDelete)
        relatedName := field.relation.bind (·.relatedName)
        isSelfReferential := relatedModel == some field.model
        relatedFieldName
        relatedFieldKind := stored.kind
        relatedFieldMaxLength := stored.maxLength
        relatedFieldVia := stored.via
        manyToMany := field.manyToMany
        throughModel
        throughDbTable := match field.relation.bind (·.throughTable) with
          | some t => some t
          | none => throughModel.bind fun l => (schema.model? l).map (·.header.dbTable) }

/-- The description of a model of the schema. -/
def describe (schema : Schema) (kinds : Option KindMap) (model : Model) : ModelInfo :=
  { identity := model.label
    appLabel := model.header.appLabel
    modelName := model.header.modelName
    objectName := model.header.objectName
    module := model.header.module
    dbTable := model.header.dbTable
    fields := model.fields.filterMap (describeField schema kinds)
    uniqueTogether := model.header.uniqueTogether
    isAbstract := model.header.abstract
    isProxy := model.header.proxy
    isManaged := model.header.managed
    pkName := model.header.pkName }

end Schema

/-- Why a model gets no table, if it gets none. -/
def ModelInfo.skipReason? (info : ModelInfo) : Option String :=
  if info.isAbstract then some ("Model '" ++ info.modelName ++ "' is abstract.")
  else if info.isProxy then some ("Model '" ++ info.modelName ++ "' is a proxy model.")
  else if info.fields.isEmpty then some ("Model '" ++ info.modelName ++ "' has no concrete fields.")
  else none

end ModelTables
