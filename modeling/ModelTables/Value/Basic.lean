/-! # Document values

The values that manifests, configuration documents and requests carry: the JSON
kinds, plus the few script values that a request can hand to the library
(`undefined`, a big integer, a date, a callable).

Objects keep their members in *iteration order*: keys that are array indices (the
canonical decimal text of a number below 2³² − 1) come first, in ascending numeric
order, then every other key in the order it was first set.  `Fields.set` is the only
way members are added, so every object built by the library is in that order, and
setting a key that is already present keeps its place and replaces its value.
-/

namespace ModelTables

/-- A member that every plain object inherits from the shared object prototype,
which a plain property read finds when the object has no member of that name. -/
inductive Inherited where
  /-- A method of the prototype, by its property name. -/
  | method (key : String)
  /-- `__proto__`, which reads the prototype object itself. -/
  | prototype
  deriving Inhabited, BEq, Repr

namespace Inherited

/-- The property names of the prototype's methods. -/
def methodNames : List String :=
  ["constructor", "__defineGetter__", "__defineSetter__", "hasOwnProperty", "__lookupGetter__",
   "__lookupSetter__", "isPrototypeOf", "propertyIsEnumerable", "toString", "valueOf",
   "toLocaleString"]

/-- The inherited member a property name reads, if it names one. -/
def of? (key : String) : Option Inherited :=
  if key == "__proto__" then some .prototype
  else if methodNames.contains key then some (.method key)
  else none

/-- The text a member converts to: a method prints as native code under its
function name (`Object` for `constructor`), the prototype as `[object Object]`. -/
def text : Inherited → String
  | .method key =>
    "function " ++ (if key == "constructor" then "Object" else key) ++ "() \x7b [native code] \x7d"
  | .prototype => "[object Object]"

end Inherited

/-- A loosely typed document value. -/
inductive Value where
  /-- The absent value; an object member holding it is dropped when written. -/
  | undefined
  | null
  | bool (b : Bool)
  | number (x : Float)
  | bigint (n : Int)
  | string (s : String)
  /-- A point in time in milliseconds since the epoch; `none` is an invalid date. -/
  | date (time : Option Int)
  /-- Some function value; only its presence matters. -/
  | callable
  /-- A member of the shared object prototype: one of its methods, or the
  prototype itself, an object with no members of its own. -/
  | inherited (member : Inherited)
  | array (items : List Value)
  | object (fields : List (String × Value))
  deriving Inhabited

/-- The members of an object, in iteration order. -/
abbrev Fields := List (String × Value)

/-! ## Index keys -/

/-- The value of a text made of decimal digits only, or `none`. -/
def decimalDigits? (cs : List Char) : Option Nat :=
  if cs.isEmpty || !cs.all Char.isDigit then none
  else some (cs.foldl (fun acc c => acc * 10 + (c.toNat - '0'.toNat)) 0)

/-- The index a key stands for when it is the canonical decimal text of a number
below 2³² − 1 (no sign, no leading zero unless it is `0`). -/
def indexKey? (key : String) : Option Nat :=
  match key.toList with
  | '0' :: _ :: _ => none
  | cs => match decimalDigits? cs with
    | some n => if n < 4294967295 then some n else none
    | none => none

namespace Fields

/-- The member stored under `key`, if any. -/
def get? (fields : Fields) (key : String) : Option Value :=
  (fields.find? (·.1 == key)).map (·.2)

/-- Whether `key` is a member. -/
def contains (fields : Fields) (key : String) : Bool :=
  fields.any (·.1 == key)

/-- Where a new key goes: an index key before the first member that is not an
index key or has a larger index; any other key at the end. -/
def insertNew (fields : Fields) (key : String) (v : Value) : Fields :=
  match indexKey? key with
  | none => fields ++ [(key, v)]
  | some n =>
    let before := fields.takeWhile fun entry =>
      match indexKey? entry.1 with
      | some m => m < n
      | none => false
    before ++ (key, v) :: fields.drop before.length

/-- Set a member: a present key keeps its place and takes the new value. -/
def set (fields : Fields) (key : String) (v : Value) : Fields :=
  if Fields.contains fields key then
    fields.map fun entry => if entry.1 == key then (key, v) else entry
  else insertNew fields key v

/-- Build an object's members from pairs in the order they are set. -/
def ofPairs (pairs : List (String × Value)) : Fields :=
  pairs.foldl (fun acc entry => Fields.set acc entry.1 entry.2) []

/-- The keys, in iteration order. -/
def keys (fields : Fields) : List String := fields.map (·.1)

end Fields

namespace Value

/-- An object built from pairs set in order. -/
def obj (pairs : List (String × Value)) : Value := .object (Fields.ofPairs pairs)

/-- A member of an object value; `none` for a missing key or a non-object. -/
def get? (v : Value) (key : String) : Option Value :=
  match v with
  | .object fields => Fields.get? fields key
  | _ => none

/-- A member read as a property access would: missing reads as `undefined`. -/
def field (v : Value) (key : String) : Value :=
  (v.get? key).getD .undefined

/-- Whether the value is `undefined`. -/
def isUndefined : Value → Bool
  | .undefined => true
  | _ => false

/-- Whether the value is `null` or `undefined`. -/
def isNullish : Value → Bool
  | .undefined => true
  | .null => true
  | _ => false

/-- The value with `null` read as `undefined`, as the `??` operator sees them. -/
def orUndefined (v : Value) : Value := if v.isNullish then .undefined else v

/-- Truth of a value in a condition: `undefined`, `null`, `false`, zero, NaN, the
zero big integer and the empty text are false; everything else is true. -/
def truthy : Value → Bool
  | .undefined => false
  | .null => false
  | .bool b => b
  | .number x => !(x == 0 || x.isNaN)
  | .bigint n => n != 0
  | .string s => !s.isEmpty
  | _ => true

/-- Whether the value is an object that is neither an array nor `null` (a date and
the object prototype count). -/
def isRecord : Value → Bool
  | .object _ => true
  | .date _ => true
  | .inherited .prototype => true
  | _ => false

/-- The text held by a string value. -/
def asString? : Value → Option String
  | .string s => some s
  | _ => none

/-- The number held by a number value. -/
def asNumber? : Value → Option Float
  | .number x => some x
  | _ => none

/-- The Boolean held by a Boolean value. -/
def asBool? : Value → Option Bool
  | .bool b => some b
  | _ => none

/-- The items of an array value. -/
def asArray? : Value → Option (List Value)
  | .array items => some items
  | _ => none

/-- The members of an object value. -/
def asObject? : Value → Option Fields
  | .object fields => some fields
  | _ => none

end Value

end ModelTables
