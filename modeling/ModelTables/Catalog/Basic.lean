import ModelTables.Schema.Basic
import ModelTables.Keyed

/-! # Field and model descriptions

What table generation needs to know about a model, read off the built schema:
each stored field (and each forward many-to-many field) with its kind after the
configured kind map, its column, its flags, its default, and for a relation the
target, the referenced field and the kind of the column that finally stores the
referenced value.
-/

namespace ModelTables

/-- The enum of a field whose choices come from an enum and whose default is one
of its members. -/
abbrev EnumType := ChoiceEnum

/-- A field kind after the kind map.  The map is read with a plain property
lookup, so a kind that the map has no entry for but that names a member every
object inherits (`toString`, `__proto__`, …) maps to that member. -/
inductive MappedKind where
  | named (kind : String)
  | inherited (member : Inherited)
  deriving Inhabited, BEq

namespace MappedKind

/-- The text of a mapped kind, as messages print it. -/
def text : MappedKind → String
  | .named kind => kind
  | .inherited m => m.text

/-- The kind name, when the kind is a name. -/
def name? : MappedKind → Option String
  | .named kind => some kind
  | .inherited _ => none

end MappedKind

/-- The description of one field. -/
structure FieldInfo where
  name : String
  /-- The field's kind after the configured kind map. -/
  internalType : MappedKind
  column : String
  primaryKey : Bool
  null : Bool
  unique : Bool
  hasDefault : Bool
  default : Preset
  maxLength : Option Float
  maxDigits : Option Float
  decimalPlaces : Option Float
  dbIndex : Bool
  choices : Option (List (ChoiceValue × String))
  enumType : Option EnumType
  isRelation : Bool
  /-- The label of the relation's target. -/
  relatedModel : Option String
  onDelete : Option String
  relatedName : Option String
  isSelfReferential : Bool
  relatedFieldName : Option String
  /-- The kind of the column that stores the referenced value, after the kind map;
  `none` when the walk to it fails. -/
  relatedFieldKind : Option MappedKind
  relatedFieldMaxLength : Option Float
  /-- The labels of the models the walk to the stored column passed through. -/
  relatedFieldVia : List String
  manyToMany : Bool
  throughModel : Option String
  throughDbTable : Option String
  deriving Inhabited

/-- The description of one model. -/
structure ModelInfo where
  /-- The label of the model. -/
  identity : String
  appLabel : String
  modelName : String
  objectName : String
  module : String
  dbTable : String
  fields : List FieldInfo
  uniqueTogether : List (List String)
  isAbstract : Bool
  isProxy : Bool
  isManaged : Bool
  pkName : String
  deriving Inhabited

/-- A kind map: source kinds to the kinds they are generated as. -/
abbrev KindMap := List (String × String)

/-- A kind after an optional kind map: without a map the kind stays; with one, the
kind's entry, else the member every object inherits under the kind's name, else
the kind itself. -/
def mapKind (map : Option KindMap) (kind : String) : MappedKind :=
  match map with
  | none => .named kind
  | some m => match Keyed.lookup m kind with
    | .own k => .named k
    | .inherited i => .inherited i
    | .missing => .named kind

end ModelTables
