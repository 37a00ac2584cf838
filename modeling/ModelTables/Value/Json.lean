import ModelTables.Value.Basic
import ModelTables.Decimal.Text
import ModelTables.Text.Quoted
import ModelTables.Calendar

/-! # JSON text of document values

`Value.jsonText?` writes a value as compact JSON text: no blanks, strings quoted by
`Text.quote`, numbers by `Decimal.numberText` with non-finite numbers written
`null`, dates as their quoted ISO text (`null` when invalid), members whose value is
`undefined` or a callable left out, and such items written `null`.  An `undefined`
or callable value itself has no text.

`Value.parseJson?` reads strict JSON text (RFC 8259): numbers become the nearest
double, a repeated key keeps its first place and takes its last value, and the
result's objects are in iteration order.
-/

namespace ModelTables

namespace Value

mutual

/-- The JSON text of a value; `none` for `undefined` and callables. -/
def jsonText? : Value → Option String
  | .undefined => none
  | .callable => none
  | .inherited (.method _) => none
  | .inherited .prototype => some "\x7b\x7d"
  | .null => some "null"
  | .bool b => some (if b then "true" else "false")
  | .number x => some (if x.isNaN || x.isInf then "null" else Decimal.numberText x)
  | .bigint n => some (toString n)
  | .string s => some (Text.quote s)
  | .date t => some (match t with
      | some time => Text.quote (Calendar.isoText time)
      | none => "null")
  | .array items => some ("[" ++ ",".intercalate (itemsText items) ++ "]")
  | .object fields => some ("\x7b" ++ ",".intercalate (membersText fields) ++ "\x7d")

/-- The texts of array items; an item without text is written `null`. -/
def itemsText : List Value → List String
  | [] => []
  | v :: rest => (jsonText? v).getD "null" :: itemsText rest

/-- The texts of object members; a member without text is left out. -/
def membersText : List (String × Value) → List String
  | [] => []
  | (key, v) :: rest =>
    match jsonText? v with
    | some text => (Text.quote key ++ ":" ++ text) :: membersText rest
    | none => membersText rest

end

/-- The JSON text of a value, `undefined` for one without text. -/
def jsonText (v : Value) : String := (jsonText? v).getD "undefined"

end Value

/-! ## Reading -/

namespace JsonReader

/-- Skip JSON blanks: space, tab, line feed and carriage return. -/
def skipBlanks : List Char → List Char
  | c :: rest => if c == ' ' || c == '\t' || c == '\n' || c == '\r' then skipBlanks rest else c :: rest
  | [] => []

/-- The value of a hex digit. -/
def hexValue? (c : Char) : Option Nat :=
  if c.isDigit then some (c.toNat - '0'.toNat)
  else if 'a' ≤ c ∧ c ≤ 'f' then some (c.toNat - 'a'.toNat + 10)
  else if 'A' ≤ c ∧ c ≤ 'F' then some (c.toNat - 'A'.toNat + 10)
  else none

/-- Four hex digits. -/
def hex4? (cs : List Char) : Option (Nat × List Char) :=
  match cs with
  | a :: b :: c :: d :: rest => do
    let va ← hexValue? a
    let vb ← hexValue? b
    let vc ← hexValue? c
    let vd ← hexValue? d
    some (((va * 16 + vb) * 16 + vc) * 16 + vd, rest)
  | _ => none

/-- Read the rest of a string after its opening quote; `fuel` bounds the number of
characters read. -/
def readStringFuel : Nat → List Char → List Char → Except String (String × List Char)
  | 0, _, _ => .error "Unterminated string in JSON"
  | _ + 1, [], _ => .error "Unterminated string in JSON"
  | _ + 1, '"' :: rest, acc => .ok (String.ofList acc.reverse, rest)
  | fuel + 1, '\\' :: rest, acc =>
    match rest with
    | '"' :: r => readStringFuel fuel r ('"' :: acc)
    | '\\' :: r => readStringFuel fuel r ('\\' :: acc)
    | '/' :: r => readStringFuel fuel r ('/' :: acc)
    | 'b' :: r => readStringFuel fuel r (Char.ofNat 8 :: acc)
    | 'f' :: r => readStringFuel fuel r (Char.ofNat 12 :: acc)
    | 'n' :: r => readStringFuel fuel r ('\n' :: acc)
    | 'r' :: r => readStringFuel fuel r ('\r' :: acc)
    | 't' :: r => readStringFuel fuel r ('\t' :: acc)
    | 'u' :: r =>
      match hex4? r with
      | some (hi, r2) =>
        if 0xD800 ≤ hi ∧ hi < 0xDC00 then
          match r2 with
          | '\\' :: 'u' :: r3 =>
            match hex4? r3 with
            | some (lo, r4) =>
              if 0xDC00 ≤ lo ∧ lo < 0xE000 then
                readStringFuel fuel r4 (Text.pairChar hi lo :: acc)
              else readStringFuel fuel r2 (Text.unitChar hi :: acc)
            | none => .error "Bad Unicode escape in JSON"
          | _ => readStringFuel fuel r2 (Text.unitChar hi :: acc)
        else readStringFuel fuel r2 (Text.unitChar hi :: acc)
      | none => .error "Bad Unicode escape in JSON"
    | _ => .error "Bad escaped character in JSON"
  | fuel + 1, c :: rest, acc =>
    if c.toNat < 32 then .error "Bad control character in string literal in JSON"
    else readStringFuel fuel rest (c :: acc)

/-- Read the rest of a string after its opening quote. -/
def readString (cs : List Char) : Except String (String × List Char) :=
  readStringFuel (cs.length + 1) cs []

/-- The nearest double to `digits × 10^exponent`; very large or very small
magnitudes are settled before any power is formed. -/
def decimalToFloat (digits : Nat) (exponent : Int) : Float :=
  if digits == 0 then 0
  else
    let width : Int := Decimal.digitCount digits
    if width + exponent > 310 then Float.ofScientific 1 false 400
    else if width + exponent < -330 then 0
    else if 0 ≤ exponent then Float.ofScientific digits false exponent.toNat
    else Float.ofScientific digits true (-exponent).toNat

/-- Read a number; the digits and the place of the point are kept exactly until the
final rounding. -/
def readNumber (cs : List Char) : Except String (Float × List Char) := do
  let (negative, r0) := match cs with
    | '-' :: r => (true, r)
    | r => (false, r)
  let intDigits := r0.takeWhile Char.isDigit
  if intDigits.isEmpty then throw "No number after minus sign in JSON"
  if intDigits.length > 1 && intDigits.head? == some '0' then throw "Unexpected number in JSON"
  let r1 := r0.drop intDigits.length
  let (fracDigits, r2) ← match r1 with
    | '.' :: r =>
      let ds := r.takeWhile Char.isDigit
      if ds.isEmpty then throw "Unterminated fractional number in JSON"
      else pure (ds, r.drop ds.length)
    | r => pure ([], r)
  let (exp, r3) ← match r2 with
    | e :: r =>
      if e == 'e' || e == 'E' then
        let (expNegative, afterSign) := match r with
          | '-' :: tail => (true, tail)
          | '+' :: tail => (false, tail)
          | tail => (false, tail)
        let ds := afterSign.takeWhile Char.isDigit
        if ds.isEmpty then throw "Exponent part is missing a number in JSON"
        else
          let n : Int := (decimalDigits? ds).getD 0
          pure (if expNegative then -n else n, afterSign.drop ds.length)
      else pure (0, e :: r)
    | [] => pure (0, [])
  let digits := (decimalDigits? (intDigits ++ fracDigits)).getD 0
  let magnitude := decimalToFloat digits (exp - fracDigits.length)
  pure (if negative then -magnitude else magnitude, r3)

/-- Whether `word` starts the input. -/
def startsWith (word : List Char) (cs : List Char) : Bool := cs.take word.length == word

mutual

/-- Read one value after blanks; `fuel` bounds the nesting depth. -/
def readValue : Nat → List Char → Except String (Value × List Char)
  | 0, _ => .error "JSON nesting too deep"
  | fuel + 1, cs =>
    match skipBlanks cs with
    | '\x7b' :: rest => readMembers fuel (skipBlanks rest) [] true
    | '[' :: rest => readItems fuel (skipBlanks rest) [] true
    | '"' :: rest => (readString rest).map fun (s, r) => (.string s, r)
    | c :: rest =>
      if startsWith ['t', 'r', 'u', 'e'] (c :: rest) then .ok (.bool true, rest.drop 3)
      else if startsWith ['f', 'a', 'l', 's', 'e'] (c :: rest) then .ok (.bool false, rest.drop 4)
      else if startsWith ['n', 'u', 'l', 'l'] (c :: rest) then .ok (.null, rest.drop 3)
      else if c == '-' || c.isDigit then
        (readNumber (c :: rest)).map fun (x, r) => (.number x, r)
      else .error ("Unexpected token '" ++ c.toString ++ "' in JSON")
    | [] => .error "Unexpected end of JSON input"

/-- Read array items after `[`; `first` marks that no item has been read. -/
def readItems : Nat → List Char → List Value → Bool → Except String (Value × List Char)
  | _, ']' :: rest, acc, true => .ok (.array acc.reverse, rest)
  | 0, _, _, _ => .error "JSON nesting too deep"
  | fuel + 1, cs, acc, _ => do
    let (v, rest) ← readValue fuel cs
    match skipBlanks rest with
    | ',' :: r => readItems fuel (skipBlanks r) (v :: acc) false
    | ']' :: r => .ok (.array (v :: acc).reverse, r)
    | _ => .error "Expected ',' or ']' after array element in JSON"

/-- Read object members after `{`; `first` marks that no member has been read. -/
def readMembers : Nat → List Char → Fields → Bool → Except String (Value × List Char)
  | _, '\x7d' :: rest, acc, true => .ok (.object acc, rest)
  | 0, _, _, _ => .error "JSON nesting too deep"
  | fuel + 1, '"' :: cs, acc, _ => do
    let (key, rest) ← readString cs
    match skipBlanks rest with
    | ':' :: r =>
      let (v, r2) ← readValue fuel r
      match skipBlanks r2 with
      | ',' :: r3 => readMembers fuel (skipBlanks r3) (Fields.set acc key v) false
      | '\x7d' :: r3 => .ok (.object (Fields.set acc key v), r3)
      | _ => .error "Expected ',' or '\x7d' after property value in JSON"
    | _ => .error "Expected ':' after property name in JSON"
  | _, _, _, _ => .error "Expected double-quoted property name in JSON"

end

end JsonReader

/-- Read a whole JSON text. -/
def Value.parseJson? (text : String) : Except String Value := do
  let cs := text.toList
  let (v, rest) ← JsonReader.readValue (2 * cs.length + 2) cs
  match JsonReader.skipBlanks rest with
  | [] => pure v
  | _ => throw "Unexpected non-whitespace character after JSON"

end ModelTables
