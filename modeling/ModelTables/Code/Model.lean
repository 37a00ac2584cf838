import ModelTables.Plan.Fields
import ModelTables.Code.Literal
import ModelTables.Code.Imports

/-! # Table declarations as text

`renderModel` writes one planned model as the text of a table declaration
followed by its metadata block; `renderAppModule` assembles the models of one app
into a module: a header line, the merged imports, the distinct preamble blocks
and the models, separated by blank lines.

Each data field becomes a property `key: builder("column", options)` followed by
its modifiers (`.primaryKey()`, `.notNull()`, `.unique()`, then the default).  A
foreign key or one-to-one field stores the kind of the column it references and
adds `.references(…)`.  A property key that is not an identifier is written as a
quoted string.
-/

namespace ModelTables.Code

/-- The text of one column expression with what it needs. -/
structure FieldSource where
  expression : String
  imports : List Import
  /-- Module-level declarations the expression depends on. -/
  preamble : List String := []
  /-- A comment for the end of the property line. -/
  comment : Option String := none
  deriving Inhabited

/-- The first line of every generated module. -/
def generatedHeader : String := "// Auto-generated by schema-mirror. Do not edit manually."

/-- The declaration of the binary column type, which the table builders lack. -/
def byteaPreamble : String :=
  "\n".intercalate
    ["const bytea = customType<\x7b data: Buffer; driverData: Buffer \x7d>(\x7b",
     "  dataType() \x7b",
     "    return \"bytea\";",
     "  \x7d,",
     "\x7d);"]

/-- Whether a character may continue an identifier. -/
def isIdentChar (c : Char) : Bool :=
  ('A' ≤ c && c ≤ 'Z') || ('a' ≤ c && c ≤ 'z') || ('0' ≤ c && c ≤ '9') || c == '_' || c == '$'

/-- Whether a name is an identifier: a letter, `_` or `$`, then letters, digits,
`_` and `$`. -/
def isIdentifier (name : String) : Bool :=
  match name.toList with
  | c :: rest => isIdentChar c && !('0' ≤ c && c ≤ '9') && rest.all isIdentChar
  | [] => false

/-- A property key: the name, or the name quoted. -/
def propertyKey (name : String) : String := if isIdentifier name then name else Text.quote name

/-- A property read on `target`. -/
def propertyAccess (target name : String) : String :=
  if isIdentifier name then target ++ "." ++ name else target ++ "[" ++ Text.quote name ++ "]"

/-- The module path of an app's generated module. -/
def appModulePath (appLabel : String) : String := "./" ++ appLabel ++ ".js"

/-- A builder call on a column, with options when given. -/
def builderCall (builder column : String) (options : Option String) : FieldSource :=
  let args := match options with
    | some o => Text.quote column ++ ", " ++ o
    | none => Text.quote column
  { expression := builder ++ "(" ++ args ++ ")", imports := [pgImport builder] }

/-- Options text `\x7b a, b \x7d`. -/
def optionsText (entries : List String) : String := "\x7b " ++ ", ".intercalate entries ++ " \x7d"

/-- The bare column expression of a column spec. -/
def columnSource (spec : ColumnSpec) : FieldSource :=
  let call := builderCall
  let base : FieldSource := match spec.builder with
    | .serial => call "serial" spec.column none
    | .bigserial => call "bigserial" spec.column (some (optionsText ["mode: \"number\""]))
    | .smallserial => call "smallserial" spec.column none
    | .integer => call "integer" spec.column none
    | .bigint => call "bigint" spec.column (some (optionsText ["mode: \"number\""]))
    | .smallint => call "smallint" spec.column none
    | .varchar length choices =>
      let lengthEntry := "length: " ++ Decimal.numberText length
      let entries := if choices.isEmpty then [lengthEntry]
        else [lengthEntry, "enum: [" ++ ", ".intercalate (choices.map Text.quote) ++ "]"]
      call "varchar" spec.column (some (optionsText entries))
    | .text => call "text" spec.column none
    | .boolean => call "boolean" spec.column none
    | .date => call "date" spec.column none
    | .timestamp => call "timestamp" spec.column (some (optionsText ["withTimezone: true"]))
    | .time => call "time" spec.column none
    | .interval => call "interval" spec.column none
    | .numeric precision scale =>
      let entries := (precision.map fun p => "precision: " ++ Decimal.numberText p).toList ++
        (scale.map fun s => "scale: " ++ Decimal.numberText s).toList
      call "numeric" spec.column (if entries.isEmpty then none else some (optionsText entries))
    | .doublePrecision => call "doublePrecision" spec.column none
    | .bytea =>
      { expression := "bytea(" ++ Text.quote spec.column ++ ")", imports := [pgImport "customType"]
        preamble := [byteaPreamble] }
    | .uuid => call "uuid" spec.column none
    | .jsonb => call "jsonb" spec.column none
  match spec.enumType with
  | some e =>
    { base with expression := base.expression ++ ".$type<" ++ e.name ++ ">()"
                imports := base.imports ++ [{ module := e.module, name := e.name }] }
  | none => base

/-- The text of a null default. -/
def sqlNull : String := "sql`null`"

/-- The factory expressions and their imports. -/
def factorySource : Factory → Option (String × List Import)
  | .dict => some ("() => (\x7b\x7d)", [])
  | .list => some ("() => []", [])
  | .now => some ("() => new Date()", [])
  | .uuid4 => some ("() => randomUUID()", [{ module := "node:crypto", name := "randomUUID" }])
  | .inherited _ | .given => none

/-- The literal text of a default: a decimal column stores numbers as texts. -/
def defaultLiteral (info : FieldInfo) (v : Value) : Option String :=
  match v with
  | .number x =>
    if info.internalType == .named "DecimalField" then
      if x.isNaN || x.isInf then none else some (Text.quote (Decimal.numberText x))
    else literalSource v
  | _ => literalSource v

/-- Add the modifiers of a data field.  A default with no literal text becomes a
null default and a comment asking for a real one. -/
def applyModifiers (source : FieldSource) (info : FieldInfo) : FieldSource :=
  let m := info.modifiers
  let expression := source.expression ++ (if m.primaryKey then ".primaryKey()" else "") ++
    (if m.notNull then ".notNull()" else "") ++ (if m.unique then ".unique()" else "")
  let nullDefault : FieldSource :=
    { source with expression := expression ++ ".default(" ++ sqlNull ++ ")"
                  imports := source.imports ++ [{ module := "drizzle-orm", name := "sql" }] }
  let placeholder : FieldSource :=
    { nullDefault with comment := some ("TODO: set default for '" ++ info.name ++ "'") }
  match m.default with
  | .none => { source with expression }
  | .member e member =>
    { source with expression := expression ++ ".default(" ++ e.name ++ "." ++ member.name ++ ")"
                  imports := source.imports ++ [{ module := e.module, name := e.name }] }
  | .literal .null => nullDefault
  | .literal v =>
    match defaultLiteral info v with
    | some text => { source with expression := expression ++ ".default(" ++ text ++ ")" }
    | none => placeholder
  | .factory f =>
    match factorySource f with
    | some (text, imports) =>
      { source with expression := expression ++ ".$defaultFn(" ++ text ++ ")"
                    imports := source.imports ++ imports }
    | none => placeholder

/-- The column expression of a data field, or `none` (with a warning) for a kind
without a builder. -/
def renderDataField (info : FieldInfo) : Run (Option FieldSource) :=
  match info.internalType.columnKind? with
  | some kind => pure (some (applyModifiers (columnSource (ColumnSpec.ofField kind info)) info))
  | none => do
    Run.warn ("Unsupported field type '" ++ info.internalType.text ++ "' on field '" ++ info.name ++
      "'. Skipping.")
    pure none

/-- The bare column that stores a reference. -/
def referenceSource (info : FieldInfo) : Run FieldSource :=
  let ref := info.asReference
  match ref.internalType.columnKind? with
  | some kind => pure (columnSource (ColumnSpec.ofField kind ref))
  | none => do
    Run.warn ("Referenced field kind '" ++ ref.internalType.text ++ "' of '" ++ info.name ++
      "' has no converter; storing as integer.")
    pure (builderCall "integer" info.column none)

/-- A relation field: its descriptor, and its column unless it is many-to-many;
`none` (with a warning) for a relation kind without a descriptor. -/
def renderRelationField (info : FieldInfo) (targetClassName : String) :
    Run (Option (RelationDescriptor × Option FieldSource)) := do
  match info.describeRelation targetClassName with
  | none =>
    Run.warn ("Unsupported relation type '" ++ info.internalType.text ++ "' on field '" ++ info.name ++
      "'. Skipping.")
    pure none
  | some d =>
    if d.kind == .manyToMany then pure (some (d, none))
    else
      let base ← referenceSource info
      let reference := ".references((): AnyPgColumn => " ++ targetClassName ++ "." ++ d.references ++
        ", \x7b onDelete: " ++ Text.quote d.onDelete.text ++ " \x7d)"
      let modifiers := if info.primaryKey then ".primaryKey()"
        else (if !info.null then ".notNull()" else "") ++
          (if d.kind == .oneToOne || info.unique then ".unique()" else "")
      pure (some (d, some { base with
        expression := base.expression ++ reference ++ modifiers
        imports := base.imports ++ [{ module := "drizzle-orm/pg-core", name := "AnyPgColumn",
                                       typeOnly := true }] }))

/-- The text of a relation descriptor. -/
def descriptorText (d : RelationDescriptor) : String :=
  "\x7b kind: " ++ Text.quote d.kind.name ++ ", target: " ++ Text.quote d.target ++
    ", references: " ++ Text.quote d.references ++ ", onDelete: " ++ Text.quote d.onDelete.text ++
    ", relatedName: " ++ (match d.relatedName with
      | some n => Text.quote n
      | none => "false") ++
    ", through: " ++ (match d.through with
      | some t => Text.quote t
      | none => "null") ++ " \x7d"

/-- One rendered model. -/
structure ModelSource where
  className : String
  label : String
  appLabel : String
  code : String
  imports : List Import
  preamble : List String
  fieldNames : List String
  deriving Inhabited

/-- What rendering the fields of a model accumulates. -/
structure SourceParts where
  imports : List Import
  preamble : List String := []
  lines : List String := []
  relations : List (String × RelationDescriptor) := []
  columns : List String := []
  fieldNames : List String := []
  dataFields : Nat := 0

/-- Render one planned field into the accumulated parts. -/
def addField (schema : Schema) (appLabel : String) (parts : SourceParts) :
    FieldPlan → Run SourceParts
  | .data info => do
    match ← renderDataField info with
    | none => pure { parts with lines := parts.lines ++ ["  // Skipped unsupported field: " ++ info.name] }
    | some source =>
      let comment := match source.comment with
        | some c => " // " ++ c
        | none => ""
      pure { parts with
        imports := parts.imports ++ source.imports
        preamble := parts.preamble ++ source.preamble
        lines := parts.lines ++ ["  " ++ propertyKey info.name ++ ": " ++ source.expression ++ "," ++ comment]
        columns := parts.columns ++ [info.name]
        fieldNames := parts.fieldNames ++ [info.name]
        dataFields := parts.dataFields + 1 }
  | .relation info target targetClassName => do
    match ← renderRelationField info targetClassName with
    | none => pure parts
    | some (d, source) =>
      let parts := { parts with relations := parts.relations ++ [(info.name, d)]
                                fieldNames := parts.fieldNames ++ [info.name] }
      match source with
      | none => pure parts
      | some s =>
        let targetApp := ((schema.model? target).map (·.header.appLabel)).getD appLabel
        let crossApp : List Import := if targetApp != appLabel then
            [{ module := appModulePath targetApp, name := targetClassName }] else []
        pure { parts with
          imports := parts.imports ++ s.imports ++ crossApp
          preamble := parts.preamble ++ s.preamble
          lines := parts.lines ++ ["  " ++ propertyKey info.name ++ ": " ++ s.expression ++ ","]
          columns := parts.columns ++ [info.name] }

/-- Render the planned fields of a model, in order. -/
def renderParts (schema : Schema) (names : ClassNames) (model : ModelPlan) : Run SourceParts := do
  let plans ← planFields model names
  plans.foldlM (addField schema model.info.appLabel) { imports := [pgImport "pgTable"] }

/-- The declaration text of a model: its table with the rendered fields and the kept
uniqueness groups, then its metadata block. -/
def declareModel (appName : String) (model : ModelPlan) (parts : SourceParts)
    (uniqueTogether : List (List String)) : ModelSource :=
  let table := Text.quote model.info.dbTable
  let opening := "export const " ++ model.className ++ " = pgTable(" ++ table ++ ", \x7b"
  let (closing, imports) := if uniqueTogether.isEmpty then ("\x7d);", parts.imports)
    else
      let constraints := uniqueTogether.map fun group =>
        "unique().on(" ++ ", ".intercalate (group.map (propertyAccess "table")) ++ ")"
      ("\x7d, (table) => [" ++ ", ".intercalate constraints ++ "]);", parts.imports ++ [pgImport "unique"])
  let relationLines := if parts.relations.isEmpty then ["  relations: \x7b\x7d,"]
    else ["  relations: \x7b"] ++
      parts.relations.map (fun (name, d) => "    " ++ propertyKey name ++ ": " ++ descriptorText d ++ ",") ++
      ["  \x7d,"]
  let groupsText := (Value.array (uniqueTogether.map fun g => .array (g.map .string))).jsonText
  let code := [opening] ++ parts.lines ++ [closing, "",
    "export const " ++ model.className ++ "Meta = \x7b",
    "  table: " ++ table ++ ",",
    "  app: " ++ Text.quote appName ++ ",",
    "  uniqueTogether: " ++ groupsText ++ ","] ++ relationLines ++ ["\x7d as const;"]
  { className := model.className, label := model.label, appLabel := model.info.appLabel
    code := "\n".intercalate code, imports, preamble := parts.preamble, fieldNames := parts.fieldNames }

/-- Render one planned model, or `none` when no data field converts. -/
def renderModel (schema : Schema) (appName : String) (names : ClassNames) (model : ModelPlan) :
    Run (Option ModelSource) := do
  let parts ← renderParts schema names model
  if parts.dataFields == 0 then return none
  let uniqueTogether ← retainUniqueTogether model parts.columns
  return some (declareModel appName model parts uniqueTogether)

/-- Remove repeated texts, keeping first occurrences. -/
def distinct (xs : List String) : List String :=
  xs.foldl (fun acc x => if acc.contains x then acc else acc ++ [x]) []

/-- The module text of the models of one app, in the order given. -/
def renderAppModule (models : List ModelSource) : String :=
  let imports := renderImports (models.flatMap (·.imports))
  let preamble := distinct (models.flatMap (·.preamble))
  let sections := [generatedHeader] ++ (if imports.isEmpty then [] else ["\n".intercalate imports]) ++
    preamble ++ models.map (·.code)
  "\n\n".intercalate sections ++ "\n"

end ModelTables.Code
