import ModelTables.Manifest.Basic

/-! # The built schema

The models a manifest declares, after relations are resolved: each model has its
metadata (table name, flags, primary-key name) and its fields, forward fields first
and then the reverse fields that other models' relations add.  Models are named by
their label `app.Name`, which is unique within a schema; a relation names its
target by label.

A field's default is one of four things (`Preset`): nothing, a literal value, a
member of an enum, or a factory that makes a fresh value each time.
-/

namespace ModelTables

/-- A member of an enum, with the enum it belongs to. -/
structure EnumMember where
  enumName : String
  name : String
  value : ChoiceValue
  label : String
  deriving Inhabited

/-- An enum: its members in declaration order. -/
structure ChoiceEnum where
  name : String
  module : String
  members : List EnumMember
  deriving Inhabited

namespace ChoiceEnum

/-- Build an enum from its declaration: a member's label is its declared label when
that is a non-empty text, else its key. -/
def ofDecl (decl : EnumDecl) : ChoiceEnum :=
  { name := decl.name
    module := decl.module
    members := decl.members.map fun (key, m) =>
      let label := match m with
        | .labelled _ (some l) => if l.isEmpty then key else l
        | _ => key
      { enumName := decl.name, name := key, value := m.value, label } }

/-- The member of a name. -/
def member? (e : ChoiceEnum) (name : String) : Option EnumMember :=
  e.members.find? (·.name == name)

/-- The choices `(value, label)` of the enum, in member order. -/
def choices (e : ChoiceEnum) : List (ChoiceValue × String) :=
  e.members.map fun m => (m.value, m.label)

/-- Whether every value is a number (an empty enum counts). -/
def isNumeric (e : ChoiceEnum) : Bool := e.members.all (·.value.isNumber)

end ChoiceEnum

/-- The factories a default can name.  `inherited` stands for a method every
object inherits (`toString`, `constructor`, …), which a factory lookup by name
also finds; `given` for a function that the declaration holds as its default. -/
inductive Factory where
  | dict
  | list
  | uuid4
  | now
  | inherited (name : String)
  | given
  deriving DecidableEq, Inhabited

/-- The factories known by name. -/
def Factory.ofName? (name : String) : Option Factory :=
  match name with
  | "dict" => some .dict
  | "list" => some .list
  | "uuid4" => some .uuid4
  | "now" => some .now
  | _ => none

/-- The name a known factory goes by; `none` for an inherited or given function. -/
def Factory.name? : Factory → Option String
  | .dict => some "dict"
  | .list => some "list"
  | .uuid4 => some "uuid4"
  | .now => some "now"
  | .inherited _ | .given => none

/-- A field's default. -/
inductive Preset where
  | none
  | literal (value : Value)
  | member (enumType : ChoiceEnum) (member : EnumMember)
  | factory (f : Factory)
  deriving Inhabited

/-- The target side of a relation field. -/
structure Relation where
  /-- The label of the model the relation points at. -/
  model : String
  onDelete : Option String
  relatedName : Option String
  toField : Option String
  /-- The label of the join model of a many-to-many relation. -/
  through : Option String
  throughTable : Option String
  deriving Inhabited

/-- A field of a built model. -/
structure Field where
  name : String
  kind : String
  /-- The label of the model that holds the field. -/
  model : String
  column : Option String
  concrete : Bool
  manyToMany : Bool
  reverse : Bool
  primaryKey : Bool
  null : Bool
  unique : Bool
  dbIndex : Bool
  hasDefault : Bool
  default : Preset
  maxLength : Option Float
  maxDigits : Option Float
  decimalPlaces : Option Float
  choices : Option (List (ChoiceValue × String))
  relation : Option Relation
  deriving Inhabited

/-- What a model declares about itself. -/
structure ModelMeta where
  appLabel : String
  objectName : String
  modelName : String
  module : String
  dbTable : String
  abstract : Bool
  proxy : Bool
  managed : Bool
  uniqueTogether : List (List String)
  pkName : String
  deriving Inhabited

/-- The label of a model's metadata: `app.Name`. -/
def ModelMeta.label (m : ModelMeta) : String := m.appLabel ++ "." ++ m.objectName

/-- A built model. -/
structure Model where
  header : ModelMeta
  fields : List Field
  deriving Inhabited

/-- The label of a model: `app.Name`. -/
def Model.label (m : Model) : String := m.header.appLabel ++ "." ++ m.header.objectName

/-- A built schema: models in declaration order. -/
structure Schema where
  models : List Model
  deriving Inhabited

/-- The model of a label. -/
def Schema.model? (s : Schema) (label : String) : Option Model :=
  s.models.find? (·.label == label)

end ModelTables
