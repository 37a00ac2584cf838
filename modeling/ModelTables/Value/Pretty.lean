import ModelTables.Value.Json

/-! # Indented JSON text

`Value.prettyText` writes a value as JSON text laid out over lines: each array
item and object member on a line of its own, indented two spaces deeper than its
container, with empty containers written `[]` and `{}`.  Scalars are written as
in compact JSON text, and members without text are left out.
-/

namespace ModelTables

namespace Value

mutual

/-- The indented text of a value at indentation `pad`; `none` for values without
text. -/
def prettyText? (pad : String) : Value → Option String
  | .array items =>
    let inner := pad ++ "  "
    let lines := prettyItems inner items
    if lines.isEmpty then some "[]"
    else some ("[\n" ++ ",\n".intercalate (lines.map (inner ++ ·)) ++ "\n" ++ pad ++ "]")
  | .object fields =>
    let inner := pad ++ "  "
    let lines := prettyMembers inner fields
    if lines.isEmpty then some "\x7b\x7d"
    else some ("\x7b\n" ++ ",\n".intercalate (lines.map (inner ++ ·)) ++ "\n" ++ pad ++ "\x7d")
  | v => jsonText? v

/-- The indented texts of array items; an item without text is written `null`. -/
def prettyItems (pad : String) : List Value → List String
  | [] => []
  | v :: rest => (prettyText? pad v).getD "null" :: prettyItems pad rest

/-- The indented texts of object members; a member without text is left out. -/
def prettyMembers (pad : String) : List (String × Value) → List String
  | [] => []
  | (key, v) :: rest =>
    match prettyText? pad v with
    | some text => (Text.quote key ++ ": " ++ text) :: prettyMembers pad rest
    | none => prettyMembers pad rest

end

/-- The indented JSON text of a value, `undefined` for one without text. -/
def prettyText (v : Value) : String := (prettyText? "" v).getD "undefined"

end Value

end ModelTables
