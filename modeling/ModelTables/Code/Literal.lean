import ModelTables.Value.Json

/-! # Literal text of values

`literalSource v` is the text of an expression that evaluates to `v`, when there is
one: `null`, texts and Booleans as JSON text, finite numbers by their number text,
a big integer with the suffix `n`, a valid date as `new Date("<ISO text>")`, and
arrays and plain objects as JSON text when every value inside them is `null`, a
text, a Boolean or a finite number.  Non-finite numbers, invalid dates, `undefined`,
callables, the object prototype and its methods, and trees holding any of these (or
a date or big integer) have none.
-/

namespace ModelTables.Code

mutual

/-- Whether a value is plain JSON data: `null`, texts, Booleans, finite numbers, and
arrays and objects of these. -/
def isPlainJson : Value → Bool
  | .null => true
  | .string _ => true
  | .bool _ => true
  | .number x => !(x.isNaN || x.isInf)
  | .array items => allPlain items
  | .object fields => allPlainMembers fields
  | _ => false

/-- Whether every item is plain JSON data. -/
def allPlain : List Value → Bool
  | [] => true
  | v :: rest => isPlainJson v && allPlain rest

/-- Whether every member value is plain JSON data. -/
def allPlainMembers : List (String × Value) → Bool
  | [] => true
  | (_, v) :: rest => isPlainJson v && allPlainMembers rest

end

/-- The literal text of a value, if it has one. -/
def literalSource (v : Value) : Option String :=
  match v with
  | .null => some "null"
  | .string _ | .bool _ => v.jsonText?
  | .number x => if x.isNaN || x.isInf then none else some (Decimal.numberText x)
  | .bigint n => some (toString n ++ "n")
  | .date (some time) => some ("new Date(" ++ Text.quote (Calendar.isoText time) ++ ")")
  | .date none => none
  | .array _ | .object _ => if isPlainJson v then v.jsonText? else none
  | .undefined | .callable | .inherited _ => none

end ModelTables.Code
