import ModelTables.Manifest.Basic
import ModelTables.Shape.Check
import ModelTables.Failure
import ModelTables.Keyed

/-! # Reading a manifest

`Manifest.read v` checks a document against `Manifest.shape` and, when it fits,
reads the declarations out of it.  A document that misses the shape is refused with
every issue, each written `<location> <message>`, where the location joins member
names with `.` and writes all-digit names as `[n]` (`models[0].fields[1].name`),
and is `document` for the whole document.

After the check every declared option has its kind, so reading is total: `null`
becomes `none`, a choice pair keeps its first two items, and the enum and member
lists keep their iteration order.  Enums and members are copied key by key by
assignment, so an enum or member named `__proto__` is dropped.  The default auto
field is `BigAutoField` and an enum's module `./enums.js` unless declared.
-/

namespace ModelTables

namespace Manifest

open Shape (Kind)

/-- A non-empty text. -/
def nameShape : Shape := { kinds := [.string], minLength := some 1 }

/-- A text or `null`. -/
def optionalText : Shape := Shape.ofKinds [.string, .null]

/-- A Boolean or `null`. -/
def optionalFlag : Shape := Shape.ofKinds [.boolean, .null]

/-- A count: an integer of at least zero, or `null`. -/
def optionalCount : Shape := { kinds := [.integer, .null], minimum := some 0 }

/-- A choice value: a text or a number. -/
def choiceValueShape : Shape := Shape.ofKinds [.string, .number]

/-- Declared choices: pairs `[value, label]`, or `{enum: name}`, or `null`. -/
def choicesShape : Shape :=
  { kinds := [.array, .object, .null]
    condition := some (Shape.ofKinds [.array])
    whenFits := some
      { items := some
          { kinds := [.array]
            positional := [choiceValueShape, Shape.ofKinds [.string]]
            minItems := some 2
            maxItems := some 2 } }
    otherwise := some
      { condition := some (Shape.ofKinds [.object])
        whenFits := some { required := ["enum"], members := [("enum", nameShape)] } } }

/-- A field declaration. -/
def fieldShape : Shape :=
  { kinds := [.object]
    required := ["name", "kind"]
    members :=
      [("name", nameShape), ("kind", nameShape), ("column", optionalText),
       ("primaryKey", optionalFlag), ("null", optionalFlag), ("unique", optionalFlag),
       ("dbIndex", optionalFlag), ("maxLength", optionalCount), ("maxDigits", optionalCount),
       ("decimalPlaces", optionalCount), ("choices", choicesShape), ("to", optionalText),
       ("onDelete", optionalText), ("relatedName", optionalText), ("toField", optionalText),
       ("through", optionalText), ("throughTable", optionalText)] }

/-- A model declaration. -/
def modelShape : Shape :=
  { kinds := [.object]
    required := ["app", "name"]
    members :=
      [("app", nameShape), ("name", nameShape), ("table", optionalText),
       ("abstract", optionalFlag), ("proxy", optionalFlag), ("managed", optionalFlag),
       ("module", optionalText),
       ("uniqueTogether",
         { kinds := [.array, .null]
           items := some { kinds := [.array], items := some (Shape.ofKinds [.string]) } }),
       ("fields", { kinds := [.array, .null], items := some fieldShape })] }

/-- An enum declaration. -/
def enumShape : Shape :=
  { kinds := [.object]
    required := ["members"]
    members :=
      [("module", optionalText),
       ("members",
         { kinds := [.object]
           others := some
             { condition := some (Shape.ofKinds [.object])
               whenFits := some
                 { required := ["value"]
                   members := [("value", choiceValueShape), ("label", optionalText)] }
               otherwise := some choiceValueShape } })] }

/-- The shape of a manifest document. -/
def shape : Shape :=
  { kinds := [.object]
    required := ["models"]
    members :=
      [("defaultAutoField", optionalText),
       ("enums", { kinds := [.object, .null], others := some enumShape }),
       ("models", { kinds := [.array], items := some modelShape })] }

/-- The location of an issue: names joined by `.`, all-digit names as `[n]`,
`document` for the root. -/
def location (path : List String) : String :=
  let text := path.foldl (fun acc segment =>
    if !segment.isEmpty && segment.toList.all Char.isDigit then acc ++ "[" ++ segment ++ "]"
    else if acc.isEmpty then segment
    else acc ++ "." ++ segment) ""
  if text.isEmpty then "document" else text

/-- The text of an issue. -/
def issueText (issue : Shape.Issue) : String := location issue.path ++ " " ++ issue.message

/-! ## Reading checked declarations -/

/-- An optional text member (`null` and absent read as `none`). -/
def text? (v : Value) (key : String) : Option String := (v.field key).asString?

/-- An optional Boolean member. -/
def flag? (v : Value) (key : String) : Option Bool := (v.field key).asBool?

/-- An optional number member. -/
def number? (v : Value) (key : String) : Option Float := (v.field key).asNumber?

/-- Declared choices. -/
def readChoices (v : Value) : Option ChoicesDecl :=
  match v with
  | .array pairs => some (.pairs (pairs.filterMap fun pair =>
      match pair with
      | .array (value :: label :: _) =>
        match ChoiceValue.ofValue? value, label with
        | some cv, .string l => some (cv, l)
        | _, _ => none
      | _ => none))
  | .object fields => some (.ofEnum ((Fields.get? fields "enum").bind Value.asString? |>.getD "") fields)
  | _ => none

/-- A field declaration from a checked document. -/
def readField (v : Value) : FieldDecl :=
  { name := (text? v "name").getD ""
    kind := (text? v "kind").getD ""
    column := text? v "column"
    primaryKey := flag? v "primaryKey"
    null := flag? v "null"
    unique := flag? v "unique"
    dbIndex := flag? v "dbIndex"
    default := v.get? "default"
    maxLength := number? v "maxLength"
    maxDigits := number? v "maxDigits"
    decimalPlaces := number? v "decimalPlaces"
    choices := readChoices (v.field "choices")
    relatedTo := text? v "to"
    onDelete := text? v "onDelete"
    relatedName := text? v "relatedName"
    toField := text? v "toField"
    through := text? v "through"
    throughTable := text? v "throughTable" }

/-- A model declaration from a checked document. -/
def readModel (v : Value) : ModelDecl :=
  { app := (text? v "app").getD ""
    name := (text? v "name").getD ""
    table := text? v "table"
    abstract := flag? v "abstract"
    proxy := flag? v "proxy"
    managed := flag? v "managed"
    module := text? v "module"
    uniqueTogether := (v.field "uniqueTogether").asArray?.map fun groups =>
      groups.map fun group => ((group.asArray?).getD []).filterMap Value.asString?
    fields := ((v.field "fields").asArray?.getD []).map readField }

/-- A member declaration from a checked document: an object gives its value and its
label when the label is a text. -/
def readMember (v : Value) : MemberDecl :=
  match v with
  | .object _ =>
    let value := (ChoiceValue.ofValue? (v.field "value")).getD (.text "")
    .labelled value (text? v "label")
  | other => .bare ((ChoiceValue.ofValue? other).getD (.text ""))

/-- An enum declaration from a checked document. -/
def readEnum (name : String) (v : Value) : EnumDecl :=
  { name
    module := (text? v "module").getD "./enums.js"
    members := Keyed.ofAssigned (((v.field "members").asObject?.getD []).map fun (key, m) =>
      (key, readMember m)) }

/-- Check a manifest document and read its declarations. -/
def read (v : Value) : Except Failure Manifest :=
  let found := Shape.issues shape v
  if !found.isEmpty then .error (.invalidManifest (found.map issueText))
  else
    .ok { defaultAutoField := (text? v "defaultAutoField").getD "BigAutoField"
          enums := (Keyed.ofAssigned (((v.field "enums").asObject?.getD []).map fun (name, e) =>
            (name, readEnum name e))).map (·.2)
          models := ((v.field "models").asArray?.getD []).map readModel }

end Manifest

end ModelTables
