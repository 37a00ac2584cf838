import ModelTables.Report.Basic
import ModelTables.Config.Target

/-! # Reports of configurations

The document forms of a configuration layer (only the keys it sets, in document
order), of a merged configuration (every key, in the fixed order of the
defaults), and of the target connections.
-/

namespace ModelTables.Report

/-- A list of patterns, or `null`. -/
def patterns : Option (List String) → Value
  | some ps => texts ps
  | none => .null

/-- A mapping from texts to texts. -/
def textMap (m : Keyed String) : Value := .object (m.map fun (k, v) => (k, .string v))

/-- The pool settings of one alias. -/
def pool (p : PoolSettings) : Value :=
  .obj [("max", numberOrUndefined p.max), ("min", numberOrUndefined p.min),
    ("idleTimeoutMillis", numberOrUndefined p.idleTimeoutMillis),
    ("connectionTimeoutMillis", numberOrUndefined p.connectionTimeoutMillis),
    ("ssl", flagOrUndefined p.ssl), ("application_name", textOrUndefined p.applicationName)]

/-- A port as written. -/
def port : PortSetting → Value
  | .number n => number false n
  | .text s => .string s

/-- The settings of one database. -/
def database (d : DatabaseSettings) : Value :=
  .obj [("engine", .string d.engine), ("name", textOrUndefined d.name),
    ("host", textOrUndefined d.host), ("port", (d.port.map port).getD .undefined),
    ("user", textOrUndefined d.user), ("password", textOrUndefined d.password)]

/-- The key and document form of one setting. -/
def setting : Setting → String × Value
  | .includeModels p => ("includeModels", patterns p)
  | .excludeModels p => ("excludeModels", patterns p)
  | .engineMap m => ("engineMap", textMap m)
  | .fieldKindMap m => ("fieldKindMap", textMap m)
  | .connectionPool m => ("connectionPool", .object (m.map fun (k, p) => (k, pool p)))
  | .databases m => ("databases", .object (m.map fun (k, d) => (k, database d)))
  | .appName n => ("appName", .string n)
  | .classNameSuffix s => ("classNameSuffix", .string s)
  | .logLevel l => ("logLevel", .string l.name)

/-- A configuration layer: the keys it sets. -/
def layer (l : Layer) : Value := .obj (l.map setting)

/-- A merged configuration. -/
def config (c : Config) : Value :=
  .obj [("includeModels", patterns c.includeModels), ("excludeModels", patterns c.excludeModels),
    ("engineMap", textMap c.engineMap), ("fieldKindMap", textMap c.fieldKindMap),
    ("connectionPool", .object (c.connectionPool.map fun (k, p) => (k, pool p))),
    ("databases", .object (c.databases.map fun (k, d) => (k, database d))),
    ("appName", .string c.appName), ("classNameSuffix", .string c.classNameSuffix),
    ("logLevel", .string c.logLevel.name)]

/-- One target connection: its settings, then the alias's pool settings. -/
def targetConnection (t : TargetConnection) : Value :=
  .obj [("alias", .string t.aliasName), ("driver", match t.driver with
    | .named name => .string name
    | .inherited m => carried (.inherited m)), ("host", .string t.host),
    ("port", number false t.port), ("database", .string t.database),
    ("user", textOrUndefined t.user), ("password", textOrUndefined t.password),
    ("max", numberOrUndefined t.pool.max), ("min", numberOrUndefined t.pool.min),
    ("idleTimeoutMillis", numberOrUndefined t.pool.idleTimeoutMillis),
    ("connectionTimeoutMillis", numberOrUndefined t.pool.connectionTimeoutMillis),
    ("ssl", flagOrUndefined t.pool.ssl), ("application_name", textOrUndefined t.pool.applicationName)]

/-- The target connections and app name. -/
def targetConfig (t : TargetConfig) : Value :=
  .obj [("connections", .object (t.connections.map fun (k, c) => (k, targetConnection c))),
    ("appName", .string t.appName)]

end ModelTables.Report
