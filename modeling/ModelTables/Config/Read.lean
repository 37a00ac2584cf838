import ModelTables.Config.Basic
import ModelTables.Log

/-! # Reading configuration documents

`Layer.read` checks a configuration document and turns it into a layer.  Keys are
read in document order and the first bad one fails the read; unknown keys are
ignored with a warning.  `Config.load` merges layers over the defaults and then
requires a non-empty app name.
-/

namespace ModelTables

namespace Layer

/-- A list of patterns, or `null` for none. -/
def readPatterns (key : String) (v : Value) : Except Failure (Option (List String)) :=
  match v with
  | .null => .ok none
  | .array items =>
    (items.mapM fun (item : Value) => (match item with
      | .string s => .ok s
      | _ => .error (.patternNotText key) : Except Failure String)).map some
  | _ => .error (.patternListExpected key)

/-- A mapping from texts to texts. -/
def readTextMap (key : String) (v : Value) : Except Failure (Keyed String) :=
  match v with
  | .object fields =>
    Keyed.assignEach fields fun name entry =>
      match entry with
      | .string s => .ok s
      | _ => .error (.entryNotText key name)
  | .date _ => .ok []
  | _ => .error (.mappingExpected key)

/-- The target drivers an engine can map to. -/
def targetDrivers : List String := ["node-postgres"]

/-- An engine map: every driver must be a known one. -/
def readEngineMap (v : Value) : Except Failure (Keyed String) := do
  let entries ← readTextMap "engineMap" v
  Keyed.assignEach entries fun engine driver =>
    if targetDrivers.contains driver then .ok driver
    else .error (.unknownDriver engine driver targetDrivers)

/-- An optional number member: absent, or a number that is not NaN. -/
def optionalNumber (record : Value) (key where_ : String) : Except Failure (Option Float) :=
  match record.field key with
  | .undefined => .ok none
  | .number n => if n.isNaN then .error (.numberExpected (where_ ++ "." ++ key)) else .ok (some n)
  | _ => .error (.numberExpected (where_ ++ "." ++ key))

/-- An optional text member. -/
def optionalText (record : Value) (key where_ : String) : Except Failure (Option String) :=
  match record.field key with
  | .undefined => .ok none
  | .string s => .ok (some s)
  | _ => .error (.textExpected (where_ ++ "." ++ key))

/-- The pool settings of one alias. -/
def readPool (aliasName : String) (raw : Value) : Except Failure PoolSettings := do
  let where_ := "connectionPool." ++ aliasName
  if !raw.isRecord then throw (.mappingExpected where_)
  let ssl ← match raw.field "ssl" with
    | .undefined => pure none
    | .bool b => pure (some b)
    | _ => throw (.booleanExpected (where_ ++ ".ssl"))
  let max ← optionalNumber raw "max" where_
  let min ← optionalNumber raw "min" where_
  let idle ← optionalNumber raw "idleTimeoutMillis" where_
  let connect ← optionalNumber raw "connectionTimeoutMillis" where_
  let appName ← optionalText raw "application_name" where_
  pure { max, min, idleTimeoutMillis := idle, connectionTimeoutMillis := connect, ssl
         applicationName := appName }

/-- The pool settings of every alias. -/
def readPools (v : Value) : Except Failure (Keyed PoolSettings) :=
  match v with
  | .object fields => Keyed.assignEach fields readPool
  | .date _ => .ok []
  | _ => .error (.mappingExpected "connectionPool")

/-- The settings of one database. -/
def readDatabase (aliasName : String) (raw : Value) : Except Failure DatabaseSettings := do
  let where_ := "databases." ++ aliasName
  let engine ← match raw.isRecord, raw.field "engine" with
    | true, .string e => pure e
    | _, _ => throw (.engineMissing where_)
  let port ← match raw.field "port" with
    | .undefined => pure none
    | .number n => pure (some (PortSetting.number n))
    | .string s => pure (some (PortSetting.text s))
    | _ => throw (.portKindInvalid (where_ ++ ".port"))
  let name ← optionalText raw "name" where_
  let host ← optionalText raw "host" where_
  let user ← optionalText raw "user" where_
  let password ← optionalText raw "password" where_
  pure { engine, name, host, port, user, password }

/-- The settings of every database. -/
def readDatabases (v : Value) : Except Failure (Keyed DatabaseSettings) :=
  match v with
  | .object fields => Keyed.assignEach fields readDatabase
  | .date _ => .ok []
  | _ => .error (.mappingExpected "databases")

/-- The setting a configuration key gives; `none` for a key that is not a setting. -/
def settingOf (key : String) (v : Value) : Except Failure (Option Setting) :=
  match key with
  | "includeModels" => (readPatterns key v).map (some ∘ .includeModels)
  | "excludeModels" => (readPatterns key v).map (some ∘ .excludeModels)
  | "engineMap" => (readEngineMap v).map (some ∘ .engineMap)
  | "fieldKindMap" => (readTextMap key v).map (some ∘ .fieldKindMap)
  | "connectionPool" => (readPools v).map (some ∘ .connectionPool)
  | "databases" => (readDatabases v).map (some ∘ .databases)
  | "appName" => match v with
    | .string s => .ok (some (.appName s))
    | _ => .error (.textExpected key)
  | "classNameSuffix" => match v with
    | .string s => .ok (some (.classNameSuffix s))
    | _ => .error (.textExpected key)
  | "logLevel" => match v with
    | .string s => match LogLevel.ofName? s with
      | some l => .ok (some (.logLevel l))
      | none => .error .logLevelInvalid
    | _ => .error .logLevelInvalid
  | _ => .ok none

/-- Read one configuration key; a key that is not a setting is ignored with a
warning. -/
def readSetting (key : String) (v : Value) : Run (Option Setting) := do
  let setting ← Run.lift (settingOf key v)
  if setting.isNone then Run.warn ("Ignoring unknown configuration key '" ++ key ++ "'")
  pure setting

/-- Read a configuration document: nothing (`null` or absent) is an empty layer;
anything else must be a mapping. -/
def read (data : Value) : Run Layer :=
  match data with
  | .null | .undefined => pure []
  | .object fields => fields.foldlM (fun acc entry => do
      let setting ← readSetting entry.1 entry.2
      pure (acc ++ setting.toList)) []
  | .date _ => pure []
  | _ => throw .configNotMapping

end Layer

namespace Config

/-- Merge layers over the defaults (a missing layer changes nothing); the app
name must not end up empty. -/
def load (layers : List (Option Layer)) : Except Failure Config :=
  let merged := layers.foldl (fun c layer => match layer with
    | some l => c.applyLayer l
    | none => c) defaults
  if merged.appName.isEmpty then .error .appNameEmpty else .ok merged

end Config

end ModelTables
