import ModelTables.Value.Basic
import ModelTables.Decimal.Text

/-! # Failures

Every way an operation of the library can fail, one constructor per cause.  A
failure belongs to one of five kinds (a bad schema, a bad configuration, a
connection problem, an unsupported database engine, a file problem); its text and
its details (a member list naming what was at fault) are functions of the cause.
-/

namespace ModelTables

/-- The kinds of failure. -/
inductive FailureKind where
  | schema
  | config
  | connection
  | unsupportedBackend
  | fileIO
  /-- An expression the regular-expression engine refuses; it is not one of the
  library's own kinds, so it has no code. -/
  | regex
  deriving DecidableEq, Repr

namespace FailureKind

/-- The name of the kind, as reports write it. -/
def name : FailureKind → String
  | .schema => "SchemaError"
  | .config => "ConfigError"
  | .connection => "ConnectionError"
  | .unsupportedBackend => "UnsupportedBackendError"
  | .fileIO => "FileIOError"
  | .regex => "SyntaxError"

/-- The code of the kind, as reports write it; the kind that is not the
library's own has none. -/
def code : FailureKind → Option String
  | .schema => some "SCHEMA_ERROR"
  | .config => some "CONFIG_ERROR"
  | .connection => some "CONNECTION_ERROR"
  | .unsupportedBackend => some "UNSUPPORTED_BACKEND"
  | .fileIO => some "FILE_IO_ERROR"
  | .regex => none

end FailureKind

/-- The causes of failure. -/
inductive Failure where
  /-- The manifest misses its document shape; one text per issue. -/
  | invalidManifest (issues : List String)
  | unsupportedManifestFormat (path : String)
  | unreadableManifest (path : String)
  | unparsableManifest (path reason : String)
  | duplicateModel (label : String)
  /-- Two fields of a model share a name (`field` is `app.Model.name`). -/
  | duplicateField (field : String)
  | unknownRelatedModel (field target : String)
  | relationWithoutTarget (field : String)
  | unknownEnum (field enumName : String)
  | unknownEnumMember (field enumName member : String)
  | unknownFactory (field name : String)
  /-- A reference names a table that was not built in its round. -/
  | tableNotBuilt (className : String)
  /-- A reference names a column its table does not have. -/
  | columnMissing (className column : String)
  /-- A configuration document that is not a mapping. -/
  | configNotMapping
  | patternListExpected (key : String)
  | patternNotText (key : String)
  | mappingExpected (key : String)
  | entryNotText (key name : String)
  | unknownDriver (engine driver : String) (known : List String)
  | numberExpected (key : String)
  | textExpected (key : String)
  | booleanExpected (key : String)
  | engineMissing (key : String)
  | portKindInvalid (key : String)
  | logLevelInvalid
  | appNameEmpty
  /-- A port that is not a positive integer; `port` is the configured value. -/
  | invalidPort (aliasName : String) (port : Value)
  | unsupportedEngine (aliasName engine : String) (supported : List String)
  | unsupportedConfigFormat (path : String)
  | unreadableConfig (path : String)
  | unparsableConfig (path reason : String)
  | connectFailed (aliasName host database reason : String)
  | closeFailed (count : Nat)
  | notInitialized (aliasName : Option String)
  | unknownAlias (aliasName : Option String)
  | writeFailed (outputDir : String)
  /-- A model pattern whose expression cannot be compiled, with the engine's
  reason. -/
  | invalidPattern (reason : String)
  deriving Inhabited

namespace Failure

/-- The kind of a failure. -/
def kind : Failure → FailureKind
  | .invalidManifest _ | .duplicateModel _ | .duplicateField _ | .unknownRelatedModel _ _
  | .relationWithoutTarget _ | .unknownEnum _ _ | .unknownEnumMember _ _ _ | .unknownFactory _ _
  | .unparsableManifest _ _ | .tableNotBuilt _ | .columnMissing _ _ => .schema
  | .unsupportedManifestFormat _ | .unreadableManifest _ | .writeFailed _ => .fileIO
  | .unsupportedEngine _ _ _ => .unsupportedBackend
  | .connectFailed _ _ _ _ | .closeFailed _ | .notInitialized _ | .unknownAlias _ => .connection
  | .invalidPattern _ => .regex
  | _ => .config

/-- A quoted name: `'name'`. -/
def quoted (s : String) : String := "'" ++ s ++ "'"

/-- The text of a failure. -/
def message : Failure → String
  | .invalidManifest issues => "Invalid schema manifest: " ++ "; ".intercalate issues
  | .unsupportedManifestFormat path =>
    "Unsupported schema file format: " ++ path ++ ". Must be .json, .yaml, or .yml"
  | .unreadableManifest path => "Failed to read schema file: " ++ path
  | .unparsableManifest path reason => "Failed to parse schema file: " ++ path ++ ": " ++ reason
  | .duplicateModel label => "Duplicate model " ++ quoted label
  | .duplicateField field => "Duplicate field " ++ quoted field
  | .unknownRelatedModel field target => field ++ ": unknown related model " ++ quoted target
  | .relationWithoutTarget field => field ++ ": relation fields need 'to'"
  | .unknownEnum field name => field ++ ": unknown enum " ++ quoted name
  | .unknownEnumMember field name member =>
    field ++ ": enum " ++ quoted name ++ " has no member " ++ quoted member
  | .unknownFactory field name => field ++ ": unknown default factory " ++ quoted name
  | .tableNotBuilt className => "Table " ++ className ++ " was not materialized"
  | .columnMissing className column => "Table " ++ className ++ " has no column " ++ quoted column
  | .configNotMapping => "Configuration must be a mapping"
  | .patternListExpected key => quoted key ++ " must be a list of patterns or null"
  | .patternNotText key => quoted key ++ " entries must be strings"
  | .mappingExpected key => quoted key ++ " must be a mapping"
  | .entryNotText key name => quoted (key ++ "." ++ name) ++ " must be a string"
  | .unknownDriver engine driver known =>
    quoted ("engineMap." ++ engine) ++ " names unknown driver " ++ quoted driver ++
      ". Known drivers: " ++ ", ".intercalate known
  | .numberExpected key => quoted key ++ " must be a number"
  | .textExpected key => quoted key ++ " must be a string"
  | .booleanExpected key => quoted key ++ " must be a boolean"
  | .engineMissing key => quoted key ++ " needs an 'engine'"
  | .portKindInvalid key => quoted key ++ " must be a number or string"
  | .logLevelInvalid => "'logLevel' must be one of error, warn, info, debug"
  | .appNameEmpty => "'appName' must not be empty"
  | .invalidPort aliasName port =>
    let text := match port with
      | .number x => Decimal.numberText x
      | .string s => s
      | _ => "undefined"
    "Invalid port for database " ++ quoted aliasName ++ ": " ++ text
  | .unsupportedEngine aliasName engine supported =>
    "Database " ++ quoted aliasName ++ " uses unsupported engine " ++ quoted engine ++
      ". Supported engines: " ++ ", ".intercalate supported
  | .unsupportedConfigFormat path =>
    "Unsupported config file format: " ++ path ++ ". Must be .json, .yaml, or .yml"
  | .unreadableConfig path => "Failed to read config file: " ++ path
  | .unparsableConfig path reason => "Failed to parse config file: " ++ path ++ ": " ++ reason
  | .connectFailed aliasName _ _ reason =>
    "Failed to initialize connection " ++ quoted aliasName ++ ": " ++ reason
  | .closeFailed count => "Failed to close " ++ toString count ++ " connection(s)"
  | .notInitialized _ => "Target connections are not initialized"
  | .unknownAlias aliasName => "Unknown connection alias " ++ quoted (aliasName.getD "undefined")
  | .writeFailed outputDir => "Failed to write generated modules to " ++ outputDir
  | .invalidPattern reason => reason

/-- A member list of text values. -/
def textDetails (pairs : List (String × String)) : Value :=
  .obj (pairs.map fun (k, v) => (k, .string v))

/-- The details of a failure; `none` where a cause has none. -/
def details : Failure → Option Value
  | .invalidManifest issues => some (.obj [("errors", .array (issues.map .string))])
  | .unsupportedManifestFormat path => some (textDetails [("filePath", path)])
  | .unreadableManifest path => some (textDetails [("filePath", path)])
  | .unparsableManifest path _ => some (textDetails [("filePath", path)])
  | .duplicateModel label => some (textDetails [("model", label)])
  | .duplicateField field => some (textDetails [("field", field)])
  | .unknownRelatedModel field target => some (textDetails [("field", field), ("to", target)])
  | .relationWithoutTarget field => some (textDetails [("field", field)])
  | .unknownEnum field name => some (textDetails [("field", field), ("enum", name)])
  | .unknownEnumMember field name member =>
    some (textDetails [("field", field), ("enum", name), ("member", member)])
  | .unknownFactory field name => some (textDetails [("field", field), ("factory", name)])
  | .tableNotBuilt className => some (textDetails [("className", className)])
  | .columnMissing className column => some (textDetails [("className", className), ("column", column)])
  | .configNotMapping => none
  | .patternListExpected key => some (textDetails [("key", key)])
  | .patternNotText key => some (textDetails [("key", key)])
  | .mappingExpected key => some (textDetails [("key", key)])
  | .entryNotText key name => some (textDetails [("key", key), ("name", name)])
  | .unknownDriver engine driver _ => some (textDetails [("engine", engine), ("driver", driver)])
  | .numberExpected key => some (textDetails [("key", key)])
  | .textExpected key => some (textDetails [("key", key)])
  | .booleanExpected key => some (textDetails [("key", key)])
  | .engineMissing key => some (textDetails [("key", key)])
  | .portKindInvalid key => some (textDetails [("key", key)])
  | .logLevelInvalid => some (textDetails [("key", "logLevel")])
  | .appNameEmpty => some (textDetails [("key", "appName")])
  | .invalidPort aliasName port => some (.obj [("alias", .string aliasName), ("port", port)])
  | .unsupportedEngine aliasName engine supported =>
    some (.obj [("alias", .string aliasName), ("engine", .string engine),
      ("supported", .array (supported.map .string))])
  | .unsupportedConfigFormat path => some (textDetails [("filePath", path)])
  | .unreadableConfig path => some (textDetails [("filePath", path)])
  | .unparsableConfig path _ => some (textDetails [("filePath", path)])
  | .connectFailed aliasName host database _ =>
    some (textDetails [("alias", aliasName), ("host", host), ("database", database)])
  | .closeFailed _ => none
  | .notInitialized aliasName => some (textDetails (aliasName.toList.map fun a => ("alias", a)))
  | .unknownAlias aliasName => some (textDetails (aliasName.toList.map fun a => ("alias", a)))
  | .writeFailed outputDir => some (textDetails [("outputDir", outputDir)])
  | .invalidPattern _ => none

end Failure

end ModelTables
