import ModelTables.Value.Basic

/-! # Manifest declarations

A manifest declares models (grouped by app), their fields and the enums that
fields draw choices and defaults from.  These are the declarations as written,
after their shape has been checked: an option that was `null` or absent is
`none`, and a field remembers whether it declared a default at all (`default` is
`some v` as soon as the key is present, whatever `v` is, `undefined` included).
-/

namespace ModelTables

/-- A choice value: a text or a number. -/
inductive ChoiceValue where
  | text (s : String)
  | number (x : Float)
  deriving Inhabited

namespace ChoiceValue

/-- The choice value as a document value. -/
def toValue : ChoiceValue → Value
  | .text s => .string s
  | .number x => .number x

/-- Read a choice value from a text or a number. -/
def ofValue? : Value → Option ChoiceValue
  | .string s => some (.text s)
  | .number x => some (.number x)
  | _ => none

/-- Whether the value is a number. -/
def isNumber : ChoiceValue → Bool
  | .number _ => true
  | .text _ => false

end ChoiceValue

/-- One member of an enum declaration: a bare value, or a value with an optional
label. -/
inductive MemberDecl where
  | bare (value : ChoiceValue)
  | labelled (value : ChoiceValue) (label : Option String)
  deriving Inhabited

/-- The value of a member declaration. -/
def MemberDecl.value : MemberDecl → ChoiceValue
  | .bare v => v
  | .labelled v _ => v

/-- A declared enum: its members in iteration order. -/
structure EnumDecl where
  name : String
  module : String
  members : List (String × MemberDecl)
  deriving Inhabited

/-- Declared choices: explicit `[value, label]` pairs, or the choices of an enum
(`declared` keeps the whole declaration object). -/
inductive ChoicesDecl where
  | pairs (choices : List (ChoiceValue × String))
  | ofEnum (enumName : String) (declared : Fields)
  deriving Inhabited

/-- A declared field. -/
structure FieldDecl where
  name : String
  kind : String
  column : Option String := none
  primaryKey : Option Bool := none
  null : Option Bool := none
  unique : Option Bool := none
  dbIndex : Option Bool := none
  /-- `some v` when the declaration has the key `default`. -/
  default : Option Value := none
  maxLength : Option Float := none
  maxDigits : Option Float := none
  decimalPlaces : Option Float := none
  choices : Option ChoicesDecl := none
  relatedTo : Option String := none
  onDelete : Option String := none
  relatedName : Option String := none
  toField : Option String := none
  through : Option String := none
  throughTable : Option String := none
  deriving Inhabited

/-- Whether a field declares a default. -/
def FieldDecl.hasDefault (f : FieldDecl) : Bool := f.default.isSome

/-- Whether a field declares itself a primary key. -/
def FieldDecl.isPrimary (f : FieldDecl) : Bool := f.primaryKey == some true

/-- A declared model. -/
structure ModelDecl where
  app : String
  name : String
  table : Option String := none
  abstract : Option Bool := none
  proxy : Option Bool := none
  managed : Option Bool := none
  module : Option String := none
  uniqueTogether : Option (List (List String)) := none
  fields : List FieldDecl := []
  deriving Inhabited

/-- The label of a model declaration: `app.Name`. -/
def ModelDecl.label (m : ModelDecl) : String := m.app ++ "." ++ m.name

/-- A whole manifest. -/
structure Manifest where
  defaultAutoField : String
  enums : List EnumDecl
  models : List ModelDecl
  deriving Inhabited

end ModelTables
