import ModelTables.Catalog.Basic
import ModelTables.Column.Rules
import ModelTables.Decimal.Text

/-! # Column builders

Each field kind that can become a column has a builder: the column's storage
type with its options.  Both renderings start from the same `ColumnSpec`: the
live tables read its SQL type, the generated text writes its builder call.

* auto-increment kinds become `serial`, `bigserial` and `smallserial`;
* integer kinds become `integer`, `bigint` and `smallint`, and bounded text kinds
  `varchar` with `maxLengthFor`; an integer kind or `CharField` whose field has an
  enum becomes `integer` (numeric enum) or a `varchar` listing the enum's values
  as texts, typed by the enum;
* `DecimalField` becomes `numeric` with its digits and places when declared;
* the other kinds have one builder each.
-/

namespace ModelTables

/-- The field kinds that have a column builder. -/
inductive ColumnKind where
  | autoField | bigAutoField | smallAutoField
  | integerField | positiveIntegerField | bigIntegerField | positiveBigIntegerField
  | smallIntegerField | positiveSmallIntegerField
  | charField | textField | booleanField
  | dateField | dateTimeField | timeField | durationField
  | decimalField | floatField | binaryField | uuidField | jsonField
  | fileField | imageField | filePathField | slugField | emailField | urlField
  | ipAddressField
  deriving DecidableEq, Inhabited, Repr

/-- The builder kind of a field kind name, if it has one. -/
def ColumnKind.ofName? : String → Option ColumnKind
  | "AutoField" => some .autoField
  | "BigAutoField" => some .bigAutoField
  | "SmallAutoField" => some .smallAutoField
  | "IntegerField" => some .integerField
  | "PositiveIntegerField" => some .positiveIntegerField
  | "BigIntegerField" => some .bigIntegerField
  | "PositiveBigIntegerField" => some .positiveBigIntegerField
  | "SmallIntegerField" => some .smallIntegerField
  | "PositiveSmallIntegerField" => some .positiveSmallIntegerField
  | "CharField" => some .charField
  | "TextField" => some .textField
  | "BooleanField" => some .booleanField
  | "DateField" => some .dateField
  | "DateTimeField" => some .dateTimeField
  | "TimeField" => some .timeField
  | "DurationField" => some .durationField
  | "DecimalField" => some .decimalField
  | "FloatField" => some .floatField
  | "BinaryField" => some .binaryField
  | "UUIDField" => some .uuidField
  | "JSONField" => some .jsonField
  | "FileField" => some .fileField
  | "ImageField" => some .imageField
  | "FilePathField" => some .filePathField
  | "SlugField" => some .slugField
  | "EmailField" => some .emailField
  | "URLField" => some .urlField
  | "GenericIPAddressField" => some .ipAddressField
  | _ => none

/-- Whether a field kind name has a column builder. -/
def hasBuilder (kind : String) : Bool := (ColumnKind.ofName? kind).isSome

/-- The column kind of a mapped kind; an inherited member has none. -/
def MappedKind.columnKind? (kind : MappedKind) : Option ColumnKind :=
  kind.name?.bind ColumnKind.ofName?

/-- The kind of column that stores a reference to a field of `relatedKind`. -/
def MappedKind.referenced : Option MappedKind → MappedKind
  | some (.named kind) => .named (referenceKind (some kind))
  | some (.inherited m) => .inherited m
  | none => .named (referenceKind none)

/-- A column's storage type with its options. -/
inductive Builder where
  | serial | bigserial | smallserial
  | integer | bigint | smallint
  /-- A bounded text; `choices` lists the allowed values of an enum column. -/
  | varchar (length : Float) (choices : List String)
  | text | boolean | date | timestamp | time | interval
  | numeric (precision scale : Option Float)
  | doublePrecision | bytea | uuid | jsonb
  deriving Inhabited

namespace Builder

/-- The SQL type of a builder. -/
def sqlType : Builder → String
  | .serial => "serial"
  | .bigserial => "bigserial"
  | .smallserial => "smallserial"
  | .integer => "integer"
  | .bigint => "bigint"
  | .smallint => "smallint"
  | .varchar length _ => "varchar(" ++ Decimal.numberText length ++ ")"
  | .text => "text"
  | .boolean => "boolean"
  | .date => "date"
  | .timestamp => "timestamp with time zone"
  | .time => "time"
  | .interval => "interval"
  | .numeric (some p) (some s) =>
    "numeric(" ++ Decimal.numberText p ++ ", " ++ Decimal.numberText s ++ ")"
  | .numeric none _ => "numeric"
  | .numeric (some p) none => "numeric(" ++ Decimal.numberText p ++ ")"
  | .doublePrecision => "double precision"
  | .bytea => "bytea"
  | .uuid => "uuid"
  | .jsonb => "jsonb"

/-- Whether the column generates its own values (and so has a default and is
never null). -/
def isSerial : Builder → Bool
  | .serial | .bigserial | .smallserial => true
  | _ => false

end Builder

/-- The text form of an enum value. -/
def ChoiceValue.asText : ChoiceValue → String
  | .text s => s
  | .number n => Decimal.numberText n

/-- A column before its modifiers: its name, its builder and the enum it is
typed by. -/
structure ColumnSpec where
  column : String
  builder : Builder
  enumType : Option ChoiceEnum := none
  deriving Inhabited

/-- The column spec of a field whose kind has a builder. -/
def ColumnSpec.ofField (kind : ColumnKind) (info : FieldInfo) : ColumnSpec :=
  let bounded := Builder.varchar (maxLengthFor info.internalType.text info.maxLength) []
  let enumSpec : Option ColumnSpec := info.enumType.map fun e =>
    if e.isNumeric then { column := info.column, builder := .integer, enumType := some e }
    else
      { column := info.column
        builder := .varchar (maxLengthFor info.internalType.text info.maxLength)
          (e.members.map (·.value.asText))
        enumType := some e }
  let plain (b : Builder) : ColumnSpec := { column := info.column, builder := b }
  let withEnum (b : Builder) : ColumnSpec := enumSpec.getD (plain b)
  match kind with
  | .autoField => plain .serial
  | .bigAutoField => plain .bigserial
  | .smallAutoField => plain .smallserial
  | .integerField | .positiveIntegerField => withEnum .integer
  | .bigIntegerField | .positiveBigIntegerField => withEnum .bigint
  | .smallIntegerField | .positiveSmallIntegerField => withEnum .smallint
  | .charField => withEnum bounded
  | .textField => plain .text
  | .booleanField => plain .boolean
  | .dateField => plain .date
  | .dateTimeField => plain .timestamp
  | .timeField => plain .time
  | .durationField => plain .interval
  | .decimalField => plain (.numeric info.maxDigits info.decimalPlaces)
  | .floatField => plain .doublePrecision
  | .binaryField => plain .bytea
  | .uuidField => plain .uuid
  | .jsonField => plain .jsonb
  | .fileField | .imageField | .filePathField | .slugField | .emailField | .urlField
  | .ipAddressField => plain bounded

/-- The field description a reference column is built from: the stored kind,
the referenced field's length, and no enum. -/
def FieldInfo.asReference (info : FieldInfo) : FieldInfo :=
  { info with internalType := MappedKind.referenced info.relatedFieldKind
              maxLength := info.relatedFieldMaxLength
              enumType := none }

/-- The modifiers every stored data column carries. -/
structure Modifiers where
  primaryKey : Bool
  notNull : Bool
  unique : Bool
  default : Preset
  deriving Inhabited

/-- The modifiers of a data field: a primary key is neither marked not-null nor
unique, and the default is the declared one when there is one. -/
def FieldInfo.modifiers (info : FieldInfo) : Modifiers :=
  { primaryKey := info.primaryKey
    notNull := !info.null && !info.primaryKey
    unique := info.unique && !info.primaryKey
    default := if info.hasDefault then info.default else .none }

end ModelTables
