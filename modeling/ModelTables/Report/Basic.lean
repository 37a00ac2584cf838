import ModelTables.Value.Json
import ModelTables.Log

/-! # Reports

A report is the document form of a result: what a caller outside the library reads.
Numbers that JSON cannot hold are written as tagged objects: NaN, the infinities
and, inside carried values (`carried`), negative zero become `{"$number": text}`.
A date is written `{"$date": ISO text}` (`null` for an invalid one), a big
integer `{"$bigint": digits}` and a function `{"$function": true}`; the object
prototype is an object without members.  A member named `__proto__` is not
written: setting it on a fresh object changes that object's prototype instead of
adding a member.
A failure is reported as its kind's name and code, its text and its details.
-/

namespace ModelTables.Report

/-- The report of a number: non-finite numbers tagged; negative zero tagged when
`keepSign` holds. -/
def number (keepSign : Bool) (x : Float) : Value :=
  if x.isNaN then .obj [("$number", .string "NaN")]
  else if x.isInf then .obj [("$number", .string (if x < 0 then "-Infinity" else "Infinity"))]
  else if keepSign && x == 0 && (1 / x) < 0 then .obj [("$number", .string "-0")]
  else .number x

mutual

/-- A value with its numbers reported; `keepSign` marks a carried value, where the
sign of zero shows. -/
def tagged (keepSign : Bool) : Value → Value
  | .number x => number keepSign x
  | .array items => .array (taggedItems keepSign items)
  | .object fields => .object (taggedMembers keepSign fields)
  | .callable => .obj [("$function", .bool true)]
  | .inherited (.method _) => .obj [("$function", .bool true)]
  | .inherited .prototype => .object []
  | .bigint n => .obj [("$bigint", .string (toString n))]
  | .date (some time) => .obj [("$date", .string (Calendar.isoText time))]
  | .date none => .obj [("$date", .null)]
  | v => v

/-- Items with their numbers reported. -/
def taggedItems (keepSign : Bool) : List Value → List Value
  | [] => []
  | v :: rest => tagged keepSign v :: taggedItems keepSign rest

/-- Members with their numbers reported. -/
def taggedMembers (keepSign : Bool) : List (String × Value) → List (String × Value)
  | [] => []
  | (k, v) :: rest =>
    if k == "__proto__" then taggedMembers keepSign rest
    else (k, tagged keepSign v) :: taggedMembers keepSign rest

end

/-- A carried value (a default, an enum value): negative zero keeps its sign. -/
def carried (v : Value) : Value := tagged true v

/-- A plain result value. -/
def plain (v : Value) : Value := tagged false v

/-- An optional text, `null` when absent. -/
def textOrNull : Option String → Value
  | some s => .string s
  | none => .null

/-- An optional number, `null` when absent. -/
def numberOrNull : Option Float → Value
  | some x => number false x
  | none => .null

/-- An optional text that is left out when absent. -/
def textOrUndefined : Option String → Value
  | some s => .string s
  | none => .undefined

/-- An optional Boolean that is left out when absent. -/
def flagOrUndefined : Option Bool → Value
  | some b => .bool b
  | none => .undefined

/-- An optional number that is left out when absent. -/
def numberOrUndefined : Option Float → Value
  | some x => number false x
  | none => .undefined

/-- A list of texts. -/
def texts (xs : List String) : Value := .array (xs.map .string)

/-- The report of a failure: its kind, text, code (when its kind has one) and
details. -/
def failure (f : Failure) : Value :=
  .obj [("error", .string f.kind.name), ("message", .string f.message),
    ("code", (f.kind.code.map .string).getD .undefined),
    ("details", (f.details.map plain).getD .undefined)]

/-- The report of a log. -/
def logs (entries : List LogEntry) : Value :=
  .array (entries.map fun e => .array [.string e.level.name, .string e.message])

/-- A successful answer: the result and the log. -/
def success (result : Value) (entries : List LogEntry) : Value :=
  .obj [("result", result), ("logs", logs entries)]

/-- A failed answer: the failure and the log up to it. -/
def failed (f : Failure) (entries : List LogEntry) : Value :=
  match failure f with
  | .object fields => .object (fields ++ [("logs", logs entries)])
  | other => other

end ModelTables.Report
