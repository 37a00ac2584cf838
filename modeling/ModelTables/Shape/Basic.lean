import ModelTables.Value.Basic

/-! # Document shapes

A shape is the subset of a JSON Schema (draft 7) that the manifest needs: allowed
kinds, a minimum text length, a lower bound on numbers, item counts, one shape for
every item or one per position, required members, shapes of named members and of
all other members, and a conditional `if`/`then`/`else`.

`Kind.admits` says which values a kind takes in.  Numbers are taken loosely: NaN and
the infinities are numbers, and an integer is a number that is not NaN and has no
fractional part, so the infinities are integers too.  Dates count as objects.
-/

namespace ModelTables.Shape

/-- The kinds a shape can ask for. -/
inductive Kind where
  | null
  | boolean
  | integer
  | number
  | string
  | array
  | object
  deriving DecidableEq, Repr, Inhabited

/-- The name of a kind, as issue texts write it. -/
def Kind.name : Kind → String
  | .null => "null"
  | .boolean => "boolean"
  | .integer => "integer"
  | .number => "number"
  | .string => "string"
  | .array => "array"
  | .object => "object"

/-- Whether a number has no fractional part (the infinities have none). -/
def isWhole (x : Float) : Bool := !x.isNaN && (x.isInf || x.floor == x)

/-- Whether a kind takes in a value. -/
def Kind.admits : Kind → Value → Bool
  | .null, .null => true
  | .boolean, .bool _ => true
  | .integer, .number x => isWhole x
  | .number, .number _ => true
  | .string, .string _ => true
  | .array, .array _ => true
  | .object, .object _ => true
  | .object, .date _ => true
  | _, _ => false

end ModelTables.Shape

namespace ModelTables

/-- A document shape; every constraint is optional. -/
structure Shape where
  /-- Allowed kinds; empty allows every value. -/
  kinds : List Shape.Kind := []
  minLength : Option Nat := none
  minimum : Option Float := none
  maxItems : Option Nat := none
  minItems : Option Nat := none
  /-- The shape of every item. -/
  items : Option Shape := none
  /-- The shapes of the first items, by position. -/
  positional : List Shape := []
  required : List String := []
  /-- The shapes of named members, in the order they are checked. -/
  members : List (String × Shape) := []
  /-- The shape of every member not named in `members`. -/
  others : Option Shape := none
  /-- A value that fits `condition` is checked against `whenFits`, others against
  `otherwise`. -/
  condition : Option Shape := none
  whenFits : Option Shape := none
  otherwise : Option Shape := none
  deriving Inhabited

namespace Shape

/-- The nesting depth of a shape: one more than its deepest part. -/
def depth : Shape → Nat
  | ⟨_, _, _, _, _, items, positional, _, members, others, condition, whenFits, otherwise⟩ =>
    1 + max (depthOpt items) (max (depthList positional) (max (depthMembers members)
      (max (depthOpt others) (max (depthOpt condition) (max (depthOpt whenFits) (depthOpt otherwise))))))
where
  depthOpt : Option Shape → Nat
    | none => 0
    | some s => depth s
  depthList : List Shape → Nat
    | [] => 0
    | s :: rest => max (depth s) (depthList rest)
  depthMembers : List (String × Shape) → Nat
    | [] => 0
    | (_, s) :: rest => max (depth s) (depthMembers rest)

/-- A shape that allows only the given kinds. -/
def ofKinds (kinds : List Kind) : Shape := { kinds }

end Shape

end ModelTables
