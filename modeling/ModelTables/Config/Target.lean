import ModelTables.Config.Read
import ModelTables.Text.Units

/-! # Target connections

`Config.target` turns every configured source database into the settings of a
target connection: its driver through the engine map (the built-in PostgreSQL
engines first, the configured entries over them; an engine named like a member
every object inherits, such as `toString`, finds that member), the host (`localhost` when
empty), the port (5432 when absent or empty, otherwise a positive whole number,
a text read as a leading decimal integer), the database name, the credentials
when given, and the alias's pool settings.
-/

namespace ModelTables

/-- The driver of a target connection: a driver name from the engine map, or the
member every object inherits under the engine's name when the map has no entry
for it (the map is read with a plain property lookup). -/
inductive DriverRef where
  | named (name : String)
  | inherited (member : Inherited)
  deriving Inhabited

/-- The settings of one target connection. -/
structure TargetConnection where
  aliasName : String
  driver : DriverRef
  host : String
  port : Float
  database : String
  user : Option String
  password : Option String
  pool : PoolSettings
  deriving Inhabited

/-- Every target connection, by alias, and the target app name. -/
structure TargetConfig where
  connections : Keyed TargetConnection
  appName : String
  deriving Inhabited

namespace Config

/-- The engines every configuration understands. -/
def builtinEngines : Keyed String :=
  [("postgresql", "node-postgres"), ("postgres", "node-postgres"),
   ("django.db.backends.postgresql", "node-postgres")]

/-- The port used when none is given. -/
def defaultPort : Float := 5432

/-- Whether a character is white space that a leading-integer read skips. -/
def isLeadingSpace (c : Char) : Bool :=
  let n := c.toNat
  n == 9 || n == 10 || n == 11 || n == 12 || n == 13 || n == 32 || n == 0xA0 ||
    n == 0x1680 || (0x2000 ≤ n && n ≤ 0x200A) || n == 0x2028 || n == 0x2029 ||
    n == 0x202F || n == 0x205F || n == 0x3000 || n == 0xFEFF

/-- Read a leading decimal integer after white space and an optional sign; NaN
when there are no digits. -/
def leadingInteger (s : String) : Float :=
  let cs := s.toList.dropWhile isLeadingSpace
  let (negative, rest) := match cs with
    | '-' :: more => (true, more)
    | '+' :: more => (false, more)
    | more => (false, more)
  let digits := rest.takeWhile Char.isDigit
  if digits.isEmpty then 0.0 / 0.0
  else
    let magnitude := Float.ofNat (digits.foldl (fun n c => n * 10 + (c.toNat - '0'.toNat)) 0)
    if negative then -magnitude else magnitude

/-- Whether a number is a whole number (finite, no fraction), read off its 64 bits:
an 11-bit exponent and a 52-bit fraction.  The top exponent is infinity or NaN, the
bottom one zero or a tiny number; a normal number is whole when its exponent is at
least the bias and leaves no fraction bit below the point. -/
def isWhole (x : Float) : Bool :=
  let bits := x.toBits.toNat
  let exponent := bits / Nat.pow 2 52 % 2048
  let fraction := bits % Nat.pow 2 52
  if exponent == 2047 then false
  else if exponent == 0 then fraction == 0
  else if exponent < 1023 then false
  else fraction % Nat.pow 2 (1075 - exponent) == 0

/-- The port of a database. -/
def portOf (aliasName : String) : Option PortSetting → Except Failure Float
  | none => .ok defaultPort
  | some (.text "") => .ok defaultPort
  | some (.number n) =>
    if isWhole n && n > 0 then .ok n else .error (.invalidPort aliasName (.number n))
  | some (.text s) =>
    let n := leadingInteger s
    if isWhole n && n > 0 then .ok n else .error (.invalidPort aliasName (.string s))

/-- The engine map: the built-in engines with the configured entries assigned over
them. -/
def engines (c : Config) : Keyed String :=
  c.engineMap.foldl (fun acc entry => Keyed.assign acc entry.1 entry.2) builtinEngines

/-- The target settings of one database, its driver found in `engines`. -/
def connection (c : Config) (engines : Keyed String) (aliasName : String) (db : DatabaseSettings) :
    Except Failure TargetConnection := do
  let driver ← match Keyed.lookup engines db.engine with
    | .own name => pure (DriverRef.named name)
    | .inherited m => pure (DriverRef.inherited m)
    | .missing => throw (.unsupportedEngine aliasName db.engine (Text.sortByUnits engines.keys))
  let port ← portOf aliasName db.port
  let host := match db.host with
    | some h => if h.isEmpty then "localhost" else h
    | none => "localhost"
  pure { aliasName, driver, host, port, database := db.name.getD "", user := db.user
         password := db.password, pool := (Keyed.get? c.connectionPool aliasName).getD {} }

/-- The target settings of a configuration. -/
def target (c : Config) : Except Failure TargetConfig := do
  let connections ← Keyed.assignEach c.databases (c.connection c.engines)
  pure { connections, appName := c.appName }

end Config

end ModelTables
