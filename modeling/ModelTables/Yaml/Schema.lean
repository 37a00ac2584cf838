import ModelTables.Yaml.Node
import ModelTables.Value.Json
import ModelTables.Calendar

/-! # Tags and scalar values

A scalar's value comes from its tag, or, for a plain scalar without one, from
the first rule of the schema its text matches.

Under the YAML 1.2 core schema a plain text is null (`~`, `null`, the empty
text), a boolean (`true`, `false`, also capitalised or upper case), an integer
(`0o` octal, decimal with a sign, `0x` hex), a float (`.inf`, `.nan`, decimals
with a point or an exponent), or else text.  Under YAML 1.1 the booleans also
take `yes`/`no`/`on`/`off`/`y`/`n`, integers take `0b` binary, `0` octal,
underscores and base-60 parts, and dates (`!!timestamp`) are recognised.

An explicit tag picks its rule: `!` and `!!str` give text; `!!null`, `!!bool`,
`!!int` and `!!float` give their value when the text matches one of their rules
and text otherwise; `!!timestamp` reads a date or fails; `!!binary` reads base64
data into bytes; any other tag gives text.  Tag handles are `!!` (`tag:yaml.org,2002:`), `!` (local tags) and those a
`%TAG` directive declares; `!<...>` is a verbatim tag.
-/

namespace ModelTables.Yaml

/-- The YAML version whose schema applies. -/
inductive Version where
  | v1_1
  | v1_2
  deriving Inhabited, BEq, Repr

/-- What the directives of a document declare: the version and the tag handles
with their prefixes. -/
structure Directives where
  version : Version := .v1_2
  handles : List (String × String) := [("!!", "tag:yaml.org,2002:")]
  deriving Inhabited

/-- The full name of a tag of the YAML namespace. -/
def yamlTag (name : String) : String := "tag:yaml.org,2002:" ++ name

/-! ## Tag names -/

/-- Decode the `%XX` escapes of a tag suffix as UTF-8. -/
def decodePercent (cs : List Char) : Except String String := do
  let rec bytes : List Char → List UInt8 → List Char → Except String (List Char)
    | [], pending, acc => flush pending acc
    | '%' :: a :: b :: rest, pending, acc =>
      match JsonReader.hexValue? a, JsonReader.hexValue? b with
      | some x, some y => bytes rest (pending ++ [(x * 16 + y).toUInt8]) acc
      | _, _ => .error "URIError: URI malformed"
    | '%' :: _, _, _ => .error "URIError: URI malformed"
    | c :: rest, pending, acc => do
      let acc ← flush pending acc
      bytes rest [] (acc ++ [c])
  return String.ofList (← bytes cs [] [])
where
  /-- The characters of a run of decoded bytes. -/
  flush (pending : List UInt8) (acc : List Char) : Except String (List Char) :=
    if pending.isEmpty then .ok acc
    else match String.fromUTF8? (ByteArray.mk pending.toArray) with
      | some s => .ok (acc ++ s.toList)
      | none => .error "URIError: URI malformed"

/-- The full name of a tag as written; `!` alone stays `!`. -/
def Directives.tagName (d : Directives) (source : String) : Except String String := do
  if source == "!" then return "!"
  let cs := source.toList
  match cs with
  | '!' :: '<' :: rest =>
    let inside := rest.takeWhile (· != '>')
    if rest.drop inside.length != ['>'] then throw "Verbatim tags must end with a >"
    let name := String.ofList inside
    if name == "!" || name == "!!" then throw ("Verbatim tags aren't resolved, so " ++ source ++ " is invalid.")
    return name
  | '!' :: _ =>
    let suffix := (cs.reverse.takeWhile (· != '!')).reverse
    let handle := String.ofList (cs.take (cs.length - suffix.length))
    if suffix.isEmpty then throw ("The " ++ source ++ " tag has no suffix")
    match d.handles.find? (·.1 == handle) with
    | some (_, pre) => return pre ++ (← decodePercent suffix)
    | none =>
      if handle == "!" then return source
      throw ("Could not resolve tag: " ++ source)
  | _ => throw ("Not a valid tag: " ++ source)

/-! ## Numbers -/

/-- The value of digits in a base; `none` when one is no digit of it. -/
def digitsValue (base : Nat) (cs : List Char) : Option Nat :=
  cs.foldl (fun acc c => acc.bind fun n =>
    (JsonReader.hexValue? c).bind fun d => if d < base then some (n * base + d) else none) (some 0)

/-- Split a leading sign off: whether it is a minus, and the rest. -/
def splitSign (cs : List Char) : Bool × List Char :=
  match cs with
  | '-' :: r => (true, r)
  | '+' :: r => (false, r)
  | r => (false, r)

/-- A number with the given sign. -/
def signed (negative : Bool) (x : Float) : Float := if negative then -x else x

/-- A decimal number with an optional sign, fraction and exponent, read whole as
`parseFloat` reads it; `requirePoint` asks for a point or an exponent. -/
def decimalNumber? (cs : List Char) (requirePoint : Bool) : Option Float := do
  let (negative, r0) := splitSign cs
  let intDigits := r0.takeWhile Char.isDigit
  let r1 := r0.drop intDigits.length
  let (point, fracDigits, r2) := match r1 with
    | '.' :: r => (true, r.takeWhile Char.isDigit, (r.dropWhile Char.isDigit))
    | r => (false, [], r)
  if intDigits.isEmpty && fracDigits.isEmpty then none
  let (hasExp, exp, r3) ← match r2 with
    | e :: r =>
      if e == 'e' || e == 'E' then
        let (expNegative, afterSign) := splitSign r
        let ds := afterSign.takeWhile Char.isDigit
        if ds.isEmpty then none
        else
          let n : Int := (decimalDigits? ds).getD 0
          some (true, if expNegative then -n else n, afterSign.drop ds.length)
      else some (false, (0 : Int), e :: r)
    | [] => some (false, 0, [])
  if !r3.isEmpty then none
  if requirePoint && !point && !hasExp then none
  let digits := (decimalDigits? (intDigits ++ fracDigits)).getD 0
  return signed negative (JsonReader.decimalToFloat digits (exp - fracDigits.length))

/-- The number `parseFloat` reads from the start of a text; NaN when none. -/
def parseFloatPrefix (cs : List Char) : Float :=
  let (negative, body) := splitSign cs
  if body.take 8 == "Infinity".toList then signed negative (1.0 / 0.0)
  else
    let intDigits := body.takeWhile Char.isDigit
    let r1 := body.drop intDigits.length
    let fracDigits := match r1 with
      | '.' :: r => r.takeWhile Char.isDigit
      | _ => []
    let r2 := match r1 with
      | '.' :: r => r.drop fracDigits.length
      | r => r
    if intDigits.isEmpty && fracDigits.isEmpty then 0.0 / 0.0
    else
      let exp : Int := match r2 with
        | e :: r =>
          if e == 'e' || e == 'E' then
            let (expNegative, afterSign) := splitSign r
            let ds := afterSign.takeWhile Char.isDigit
            if ds.isEmpty then 0
            else
              let n : Int := (decimalDigits? ds).getD 0
              if expNegative then -n else n
          else 0
        | [] => 0
      let digits := (decimalDigits? (intDigits ++ fracDigits)).getD 0
      signed negative (JsonReader.decimalToFloat digits (exp - fracDigits.length))

/-- The value of an integer text in a base after a prefix of `offset`
characters, with an optional sign before it and underscores dropped. -/
def intText (cs : List Char) (offset base : Nat) : Float :=
  let (negative, body) := splitSign cs
  let ds := (body.drop offset).filter (· != '_')
  let valid := ds.takeWhile fun c => match JsonReader.hexValue? c with
    | some d => d < base
    | none => false
  if valid.isEmpty then 0.0 / 0.0
  else signed negative (Float.ofNat ((digitsValue base valid).getD 0))

/-- A base-60 number: parts separated by colons, each times 60 the one before. -/
def sexagesimal (cs : List Char) : Float :=
  let (negative, body) := splitSign cs
  let parts := (String.ofList (body.filter (· != '_'))).splitOn ":"
  let value := parts.foldl (fun acc part => acc * 60 + parseFloatPrefix part.toList) 0
  signed negative value

/-! ## Rules of the schemas -/

/-- Whether every character is a decimal digit and there is one. -/
def allDigits (cs : List Char) : Bool := !cs.isEmpty && cs.all Char.isDigit

/-- Whether a text is one of the texts `!!null` matches. -/
def isNullText (cs : List Char) : Bool :=
  cs.isEmpty || cs == ['~'] || cs == "null".toList || cs == "Null".toList || cs == "NULL".toList

/-- The boolean of a core-schema boolean text. -/
def coreBool? (cs : List Char) : Option Bool :=
  match String.ofList cs with
  | "true" | "True" | "TRUE" => some true
  | "false" | "False" | "FALSE" => some false
  | _ => none

/-- The value of `.inf` and `.nan` texts. -/
def specialFloat? (cs : List Char) : Option Float :=
  match cs with
  | ['.', 'n', 'a', 'n'] | ['.', 'N', 'a', 'N'] | ['.', 'N', 'A', 'N'] => some (0.0 / 0.0)
  | _ =>
    let (negative, body) := splitSign cs
    if body == ".inf".toList || body == ".Inf".toList || body == ".INF".toList then
      some (signed negative (1.0 / 0.0))
    else none

/-- The core-schema integer of a text: `0o` octal, decimal, `0x` hex. -/
def coreInt? (cs : List Char) : Option Float :=
  match cs with
  | '0' :: 'o' :: ds@(_ :: _) => (digitsValue 8 ds).map Float.ofNat
  | _ =>
    let (negative, body) := splitSign cs
    if allDigits body then some (signed negative (Float.ofNat ((decimalDigits? body).getD 0)))
    else match cs with
      | '0' :: 'x' :: ds@(_ :: _) => (digitsValue 16 ds).map Float.ofNat
      | _ => none

/-- The core-schema float of a text: `.inf`/`.nan`, then a decimal with an
exponent, then a decimal with a point. -/
def coreFloat? (cs : List Char) : Option Float :=
  match specialFloat? cs with
  | some x => some x
  | none => decimalNumber? cs true

/-- The value of a plain text under the core schema. -/
def coreValue (cs : List Char) : Value :=
  if isNullText cs then .null
  else match coreBool? cs with
    | some b => .bool b
    | none => match coreInt? cs with
      | some x => .number x
      | none => match coreFloat? cs with
        | some x => .number x
        | none => .string (String.ofList cs)

/-- The boolean of a YAML 1.1 boolean text. -/
def oldBool? (cs : List Char) : Option Bool :=
  match String.ofList cs with
  | "Y" | "y" | "yes" | "Yes" | "YES" | "true" | "True" | "TRUE" | "on" | "On" | "ON" => some true
  | "N" | "n" | "no" | "No" | "NO" | "false" | "False" | "FALSE" | "off" | "Off" | "OFF" => some false
  | _ => none

/-- Whether a text is digits and underscores starting with a digit. -/
def isDigitRun (cs : List Char) : Bool :=
  match cs with
  | c :: rest => c.isDigit && rest.all fun d => d.isDigit || d == '_'
  | [] => false

/-- The YAML 1.1 integer of a text: binary, octal, decimal, hex. -/
def oldInt? (cs : List Char) : Option Float :=
  let (_, body) := splitSign cs
  match body with
  | '0' :: 'b' :: ds@(_ :: _) =>
    if ds.all fun c => c == '0' || c == '1' || c == '_' then some (intText cs 2 2) else none
  | '0' :: ds@(_ :: _) =>
    if ds.all fun c => ('0' ≤ c && c ≤ '7') || c == '_' then some (intText cs 1 8)
    else if isDigitRun body then some (intText cs 0 10)
    else match ds with
      | 'x' :: hs@(_ :: _) =>
        if hs.all fun c => (JsonReader.hexValue? c).isSome || c == '_' then some (intText cs 2 16)
        else none
      | _ => none
  | _ => if isDigitRun body then some (intText cs 0 10) else none

/-- Whether a text matches the YAML 1.1 float rule with an exponent. -/
def isOldExponent (cs : List Char) : Bool :=
  let (_, body) := splitSign cs
  let intPart := if (body.head?.map Char.isDigit).getD false then
      body.takeWhile fun c => c.isDigit || c == '_'
    else []
  let r1 := body.drop intPart.length
  let r2 := match r1 with
    | '.' :: r => r.dropWhile fun c => c.isDigit || c == '_'
    | r => r
  match r2 with
  | e :: r =>
    (e == 'e' || e == 'E') && allDigits (splitSign r).2
  | [] => false

/-- Whether a text matches the YAML 1.1 float rule with a point. -/
def isOldPoint (cs : List Char) : Bool :=
  let (_, body) := splitSign cs
  let intPart := if (body.head?.map Char.isDigit).getD false then
      body.takeWhile fun c => c.isDigit || c == '_'
    else []
  match body.drop intPart.length with
  | '.' :: r => r.all fun c => c.isDigit || c == '_'
  | _ => false

/-- The YAML 1.1 float of a text. -/
def oldFloat? (cs : List Char) : Option Float :=
  match specialFloat? cs with
  | some x => some x
  | none =>
    if isOldExponent cs || isOldPoint cs then some (parseFloatPrefix (cs.filter (· != '_')))
    else none

/-- Whether a text is a base-60 number: digits, then colon parts of one or two
digits below 60, then for a float a point and digits. -/
def oldSexagesimal? (cs : List Char) : Option Float :=
  let (_, body) := splitSign cs
  let head := body.takeWhile fun c => c.isDigit || c == '_'
  if !isDigitRun head then none
  else
    let rec parts : List Char → Nat → Option (List Char × Nat)
      | ':' :: d :: rest@(e :: more), n =>
        if !d.isDigit then none
        else if e.isDigit then (if d ≤ '5' then parts more (n + 1) else none)
        else parts rest (n + 1)
      | [':', d], n => if d.isDigit then some ([], n + 1) else none
      | rest, n => some (rest, n)
    match parts (body.drop head.length) 0 with
    | some (rest, n) =>
      if n == 0 then none
      else match rest with
        | [] => some (sexagesimal cs)
        | '.' :: fr => if fr.all fun c => c.isDigit || c == '_' then some (sexagesimal cs) else none
        | _ => none
    | none => none

/-! ## Timestamps -/

/-- The digits at the front, at least `lo` and at most `hi` of them. -/
def digitRun (cs : List Char) (lo hi : Nat) : Option (Nat × List Char) :=
  let ds := (cs.takeWhile Char.isDigit).take hi
  if ds.length < lo then none else some ((decimalDigits? ds).getD 0, cs.drop ds.length)

/-- The parts of a timestamp text: year, month, day, and the time with its
zone when given. -/
structure Stamp where
  year : Nat
  month : Nat
  day : Nat
  hour : Nat := 0
  minute : Nat := 0
  second : Nat := 0
  millis : Nat := 0
  /-- The zone offset in minutes east of UTC. -/
  offset : Int := 0
  deriving Inhabited

/-- The offset of a zone `±h`, `±hh` or `±hh:mm`: hours and minutes make
minutes, and a total below 30 counts hours. -/
def zoneOffset (negative : Bool) (hours : Nat) (minutes : Option Nat) : Int :=
  let total : Int := match minutes with
    | some m => hours * 60 + m
    | none => hours
  let total := if total.natAbs < 30 then total * 60 else total
  if negative then -total else total

/-- Read the zone of a timestamp after its time. -/
def readZone (cs : List Char) : Option Int :=
  match cs.dropWhile isBlankChar with
  | [] => if cs.isEmpty then some 0 else none
  | ['Z'] => some 0
  | s :: rest =>
    if s != '-' && s != '+' then none
    else
      let (hours, r1) := match rest with
        | a :: b :: r =>
          if '0' ≤ a && a ≤ '2' && b.isDigit then (some ((a.toNat - 48) * 10 + (b.toNat - 48)), r)
          else if a.isDigit then (some (a.toNat - 48), b :: r) else (none, a :: b :: r)
        | [a] => if a.isDigit then (some (a.toNat - 48), []) else (none, [a])
        | [] => (none, [])
      match hours with
      | none => none
      | some h =>
        match r1 with
        | [] => some (zoneOffset (s == '-') h none)
        | [':', a, b] =>
          if a.isDigit && b.isDigit then
            some (zoneOffset (s == '-') h (some ((a.toNat - 48) * 10 + (b.toNat - 48))))
          else none
        | _ => none

/-- Read a timestamp text `YYYY-M-D` with an optional time `h:m:s(.f)` after
`t`, `T` or blanks, and an optional zone. -/
def readStamp (cs : List Char) : Option Stamp := do
  let (year, r) ← digitRun cs 4 4
  let r ← match r with | '-' :: r => some r | _ => none
  let (month, r) ← digitRun r 1 2
  let r ← match r with | '-' :: r => some r | _ => none
  let (day, r) ← digitRun r 1 2
  let stamp : Stamp := { year, month, day }
  match r with
  | [] => some stamp
  | c :: rest =>
    let r ← if c == 't' || c == 'T' then some rest
      else if isBlankChar c then some (rest.dropWhile isBlankChar) else none
    let (hour, r) ← digitRun r 1 2
    let r ← match r with | ':' :: r => some r | _ => none
    let (minute, r) ← digitRun r 1 2
    let r ← match r with | ':' :: r => some r | _ => none
    let (second, r) ← digitRun r 1 2
    let (millis, r) ← match r with
      | '.' :: fr =>
        let ds := fr.takeWhile Char.isDigit
        if ds.isEmpty then none
        else some ((decimalDigits? ((ds ++ ['0', '0']).take 3)).getD 0, fr.drop ds.length)
      | r => some (0, r)
    let offset ← readZone r
    some { stamp with hour, minute, second, millis, offset }

/-- The time a timestamp names, in milliseconds since the epoch, as the date
built from its parts in UTC (a year below 100 counts from 1900), less its zone. -/
def Stamp.time (s : Stamp) : Option Int :=
  let year : Int := if s.year ≤ 99 then s.year + 1900 else s.year
  let month : Int := s.month - 1
  let y := year + month / 12
  let m := month % 12
  let days := Calendar.daysFromCivil y (m + 1) 1 + s.day - 1
  let t := days * Calendar.msPerDay + s.hour * 3600000 + s.minute * 60000 + s.second * 1000 + s.millis
  let t := t - s.offset * 60000
  if t.natAbs > 8640000000000000 then none else some t

/-! ## Binary data -/

/-- The value of a base64 digit, in the standard or the URL-safe alphabet. -/
def base64Digit? (c : Char) : Option Nat :=
  if 'A' ≤ c && c ≤ 'Z' then some (c.toNat - 'A'.toNat)
  else if 'a' ≤ c && c ≤ 'z' then some (c.toNat - 'a'.toNat + 26)
  else if c.isDigit then some (c.toNat - '0'.toNat + 52)
  else if c == '+' || c == '-' then some 62
  else if c == '/' || c == '_' then some 63
  else none

/-- The bytes of a base64 text: characters outside the alphabet are skipped and
a `=` ends the data; a last group of two or three digits gives one or two
bytes. -/
def base64Bytes (cs : List Char) : List Nat :=
  let digits := ((cs.takeWhile (· != '=')).filterMap base64Digit?)
  let rec go : List Nat → List Nat → List Nat
    | a :: b :: c :: d :: rest, acc =>
      let n := ((a * 64 + b) * 64 + c) * 64 + d
      go rest (acc ++ [n / 65536, n / 256 % 256, n % 256])
    | [a, b, c], acc =>
      let n := (a * 64 + b) * 64 + c
      acc ++ [n / 1024, n / 4 % 256]
    | [a, b], acc => acc ++ [(a * 64 + b) / 16]
    | _, acc => acc
  go digits []

/-- The value of binary data: an object indexed by byte position, as the members
of a byte array are listed. -/
def bytesValue (bytes : List Nat) : Value :=
  .object (bytes.zipIdx.map fun (b, i) => (toString i, .number (Float.ofNat b)))

/-! ## Resolving scalars -/

/-- The value of a plain text found by the rules of a schema. -/
def byRules (version : Version) (cs : List Char) : Value :=
  match version with
  | .v1_2 => coreValue cs
  | .v1_1 =>
    if isNullText cs then .null
    else match oldBool? cs with
      | some b => .bool b
      | none => match oldInt? cs with
        | some x => .number x
        | none => match oldFloat? cs with
          | some x => .number x
          | none => match oldSexagesimal? cs with
            | some x => .number x
            | none => match readStamp cs with
              | some s => .date s.time
              | none => .string (String.ofList cs)

/-- The value of a text under an explicit tag, by its full name. -/
def byTag (version : Version) (tag : String) (cs : List Char) : Except String Value :=
  let text := Value.string (String.ofList cs)
  if tag == yamlTag "null" then .ok (if isNullText cs then .null else text)
  else if tag == yamlTag "bool" then
    let b := match version with
      | .v1_2 => coreBool? cs
      | .v1_1 => oldBool? cs
    .ok ((b.map Value.bool).getD text)
  else if tag == yamlTag "int" then
    let n := match version with
      | .v1_2 => coreInt? cs
      | .v1_1 => (oldInt? cs) <|> (oldSexagesimal? cs).filter fun _ => !cs.contains '.'
    .ok ((n.map Value.number).getD text)
  else if tag == yamlTag "float" then
    let n := match version with
      | .v1_2 => coreFloat? cs
      | .v1_1 => (oldFloat? cs) <|> (oldSexagesimal? cs).filter fun _ => cs.contains '.'
    .ok ((n.map Value.number).getD text)
  else if tag == yamlTag "timestamp" then
    match readStamp cs with
    | some s => .ok (.date s.time)
    | none => .error "!!timestamp expects a date, starting with yyyy-mm-dd"
  else if tag == yamlTag "binary" then .ok (bytesValue (base64Bytes cs))
  else .ok text

/-- The value of a scalar from its tag's full name (if it has a tag), how it
was written and its text. -/
def resolveScalar (version : Version) (tag : Option String) (style : Style) (text : String) :
    Except String Value :=
  match tag with
  | some "!" => .ok (.string text)
  | some name => byTag version name text.toList
  | none =>
    if style == .plain then .ok (byRules version text.toList) else .ok (.string text)

end ModelTables.Yaml
