import ModelTables.Plan.Basic
import ModelTables.Column.Builder
import ModelTables.Log

/-! # Choosing the fields of a table

Both renderings of a planned model start from `planFields`, which goes through
the described fields in order and keeps:

* data fields, as they are;
* relation fields whose target has a class name and whose referenced column will
  exist: the referenced field was found, every model on the way to its stored
  column is planned, and both its kind and the kind that stores a reference to it
  have a builder.

Every other field is dropped with a warning naming it.  After the columns are
known, `retainUniqueTogether` keeps a uniqueness group only when it is non-empty
and every field it names became a column.
-/

namespace ModelTables

/-- The kinds of relations. -/
inductive RelationKind where
  | foreignKey
  | oneToOne
  | manyToMany
  deriving DecidableEq, Inhabited, Repr

/-- The name of a relation kind. -/
def RelationKind.name : RelationKind → String
  | .foreignKey => "foreignKey"
  | .oneToOne => "oneToOne"
  | .manyToMany => "manyToMany"

/-- What a table records about one relation. -/
structure RelationDescriptor where
  kind : RelationKind
  /-- The class name of the target. -/
  target : String
  /-- The field of the target the relation points at. -/
  references : String
  onDelete : OnDelete
  /-- The reverse accessor; `none` when it is disabled. -/
  relatedName : Option String
  /-- The join table of a many-to-many relation. -/
  through : Option String
  deriving Inhabited

namespace FieldInfo

/-- The relation kind of a field: many-to-many first, then by kind. -/
def relationKind? (info : FieldInfo) : Option RelationKind :=
  if info.manyToMany then some .manyToMany
  else if info.internalType == .named "ForeignKey" then some .foreignKey
  else if info.internalType == .named "OneToOneField" then some .oneToOne
  else none

/-- The descriptor of a relation field pointing at `targetClassName`. -/
def describeRelation (info : FieldInfo) (targetClassName : String) : Option RelationDescriptor :=
  info.relationKind?.map fun kind =>
    { kind, target := targetClassName, references := info.relatedFieldName.getD "id"
      onDelete := OnDelete.ofTag info.onDelete, relatedName := reverseAccessor? info.relatedName
      through := if kind == .manyToMany then info.throughDbTable else none }

/-- Why a field cannot be rendered at all, if it cannot. -/
def invalidReason? (info : FieldInfo) : Option String :=
  if info.isRelation && info.relatedModel.isNone then
    some ("Relation field '" ++ info.name ++ "' has no related model.")
  else if info.manyToMany && info.primaryKey then
    some ("Many-to-many field '" ++ info.name ++ "' cannot be a primary key.")
  else none

/-- Why the column a foreign key or one-to-one field references will not exist,
if it will not. -/
def missingReference? (info : FieldInfo) (names : ClassNames) : Option String :=
  if info.manyToMany then none
  else
    let target := "'" ++ info.relatedModel.getD "?" ++ "." ++ info.relatedFieldName.getD "id" ++ "'"
    match info.relatedFieldKind with
    | none => some ("Referenced field " ++ target ++ " does not exist")
    | some kind =>
      match info.relatedFieldVia.find? fun label => (names.get? label).isNone with
      | some unmirrored =>
        some ("Referenced field " ++ target ++ " points into '" ++ unmirrored ++
          "', which is not mirrored")
      | none =>
        if kind.columnKind?.isNone || (MappedKind.referenced (some kind)).columnKind?.isNone then
          some ("Referenced field " ++ target ++ " has unsupported type '" ++ kind.text ++ "'")
        else none

end FieldInfo

/-- A field kept for rendering. -/
inductive FieldPlan where
  | data (info : FieldInfo)
  /-- A relation with its target's label and class name. -/
  | relation (info : FieldInfo) (target : String) (targetClassName : String)
  deriving Inhabited

/-- The field description of a plan. -/
def FieldPlan.info : FieldPlan → FieldInfo
  | .data info => info
  | .relation info _ _ => info

/-- Plan one field, warning when it is dropped. -/
def planField (model : ModelPlan) (names : ClassNames) (info : FieldInfo) :
    Run (Option FieldPlan) := do
  if let some reason := info.invalidReason? then
    Run.warn (model.label ++ ": " ++ reason ++ " Skipping.")
    return none
  match info.isRelation, info.relatedModel with
  | true, some target =>
    match names.get? target with
    | none =>
      Run.warn ("Related model '" ++ target ++ "' of field '" ++ model.label ++ "." ++ info.name ++
        "' is not mirrored; dropping relation.")
      return none
    | some targetClassName =>
      match info.missingReference? names with
      | some missing =>
        Run.warn (missing ++ "; dropping relation '" ++ model.label ++ "." ++ info.name ++ "'.")
        return none
      | none => return some (.relation info target targetClassName)
  | _, _ => return some (.data info)

/-- Plan every field of a model, in order. -/
def planFields (model : ModelPlan) (names : ClassNames) : Run (List FieldPlan) := do
  let plans ← model.info.fields.mapM (planField model names)
  return plans.filterMap id

/-- Keep the uniqueness groups whose fields all became columns, warning about the
others (an empty group included). -/
def retainUniqueTogether (model : ModelPlan) (columns : List String) : Run (List (List String)) :=
  model.info.uniqueTogether.foldlM (fun kept group => do
    let missing := group.filter fun name => !columns.contains name
    if group.isEmpty || !missing.isEmpty then
      Run.warn (model.label ++ ": dropping unique constraint (" ++ ", ".intercalate group ++
        "); missing fields: " ++ ", ".intercalate missing)
      return kept
    else return kept ++ [group]) []

end ModelTables
