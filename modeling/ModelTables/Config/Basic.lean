import ModelTables.Keyed

/-! # Configuration

What a run reads at startup: which models get tables (include and exclude glob
lists over labels), how source engines map to target drivers, how custom field
kinds map to known ones, the connection pools and databases, the target app name
recorded in every generated table's metadata, the class-name suffix and the log
level.

A configuration document is read into a `Layer`: the settings it gives, in
document order.  Layers are merged over `Config.defaults`, later layers winning
setting by setting.
-/

namespace ModelTables

/-- The log levels a configuration can name, most severe first. -/
inductive LogLevel where
  | error
  | warn
  | info
  | debug
  deriving DecidableEq, Inhabited, Repr

namespace LogLevel

/-- The name of a level. -/
def name : LogLevel → String
  | .error => "error"
  | .warn => "warn"
  | .info => "info"
  | .debug => "debug"

/-- The level a name stands for. -/
def ofName? : String → Option LogLevel
  | "error" => some .error
  | "warn" => some .warn
  | "info" => some .info
  | "debug" => some .debug
  | _ => none

end LogLevel

/-- Pool settings for one connection alias; every one is optional. -/
structure PoolSettings where
  max : Option Float := none
  min : Option Float := none
  idleTimeoutMillis : Option Float := none
  connectionTimeoutMillis : Option Float := none
  ssl : Option Bool := none
  applicationName : Option String := none
  deriving Inhabited

/-- A port as written: a number or a text. -/
inductive PortSetting where
  | number (n : Float)
  | text (s : String)
  deriving Inhabited

/-- One source database. -/
structure DatabaseSettings where
  engine : String
  name : Option String := none
  host : Option String := none
  port : Option PortSetting := none
  user : Option String := none
  password : Option String := none
  deriving Inhabited

/-- One setting of a configuration layer. -/
inductive Setting where
  /-- `none` admits every model. -/
  | includeModels (patterns : Option (List String))
  | excludeModels (patterns : Option (List String))
  | engineMap (entries : Keyed String)
  | fieldKindMap (entries : Keyed String)
  | connectionPool (entries : Keyed PoolSettings)
  | databases (entries : Keyed DatabaseSettings)
  | appName (name : String)
  | classNameSuffix (suffix : String)
  | logLevel (level : LogLevel)
  deriving Inhabited

/-- The settings of one configuration document, in document order. -/
abbrev Layer := List Setting

/-- A complete configuration. -/
structure Config where
  /-- `none` admits every model; an empty list admits none. -/
  includeModels : Option (List String)
  /-- Labels matching one of these never get tables. -/
  excludeModels : Option (List String)
  engineMap : Keyed String
  fieldKindMap : Keyed String
  connectionPool : Keyed PoolSettings
  databases : Keyed DatabaseSettings
  appName : String
  classNameSuffix : String
  logLevel : LogLevel
  deriving Inhabited

namespace Config

/-- The configuration when nothing is set. -/
def defaults : Config :=
  { includeModels := none, excludeModels := none, engineMap := [], fieldKindMap := []
    connectionPool := [], databases := [], appName := "mirror", classNameSuffix := "Table"
    logLevel := .warn }

/-- Apply one setting. -/
def apply (c : Config) : Setting → Config
  | .includeModels p => { c with includeModels := p }
  | .excludeModels p => { c with excludeModels := p }
  | .engineMap m => { c with engineMap := m }
  | .fieldKindMap m => { c with fieldKindMap := m }
  | .connectionPool m => { c with connectionPool := m }
  | .databases m => { c with databases := m }
  | .appName n => { c with appName := n }
  | .classNameSuffix s => { c with classNameSuffix := s }
  | .logLevel l => { c with logLevel := l }

/-- Apply a layer's settings in order. -/
def applyLayer (c : Config) (layer : Layer) : Config := layer.foldl apply c

end Config

end ModelTables
