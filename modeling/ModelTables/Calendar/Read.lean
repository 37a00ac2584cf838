import ModelTables.Calendar
import ModelTables.Text.Units

/-! # Reading date texts

`Calendar.parseDate? text` reads a date text as a script engine's date constructor
does and gives the time it names, or `none` for an invalid date.  The local time
zone is UTC.

The text is first taken apart into tokens (`tokenize`): a number is a run of
digits (at most nine significant digits count; its length counts every digit),
a symbol is one of `:`, `-`, `+`, `.` and `)`, a word is a run of characters from
`A` up that are not white space, a white-space character stands alone, a
parenthesised comment (nested, or running to the end) is skipped, and every other
character is an unknown token.  A NUL character ends the text.  A word is known by
its first three letters, lower-cased: the month names (which may be written out),
`am` and `pm`, the zone names `ut`, `utc`, `z`, `gmt`, `est`, `edt`, `cst`, `cdt`,
`mst`, `mdt`, `pst` and `pdt`, and the separator `t`.

The ISO form is tried first (`readIso`): a four-digit year or a sign and six
digits, then `-MM` and `-DD`, then `T`, `HH:mm`, `:ss` and a fraction of any
length, and a zone `Z`, `±HH:mm` or `±HHmm`.  A date alone is UTC.  When the text
goes on after the date with anything other than `T`, the rest is read by the
legacy rules (`readLegacy`), keeping the date numbers already read: numbers
before `:` are times, a number after a time is its last part, a signed number after
a time or `UTC` is a zone offset, other numbers are date parts, month names name
the month, `am`/`pm` shift the hour, and an unknown word after a number makes the
date invalid.  Legacy date parts are read as month-day-year unless the first is no
day number, and two-digit years are 1950…2049.
-/

namespace ModelTables.Calendar

/-- What a word is. -/
inductive WordKind where
  | unknown
  | monthName
  | zoneName
  | timeSeparator
  | amPm
  deriving Inhabited, BEq, Repr

/-- A token of a date text. -/
inductive DateToken where
  /-- A run of digits: its value (from at most nine significant digits) and its
  length. -/
  | number (value : Nat) (length : Nat)
  | symbol (c : Char)
  | whiteSpace
  /-- A word: its kind, the value of a known word, and its length. -/
  | word (kind : WordKind) (value : Int) (length : Nat)
  | unknown
  | endOfInput
  deriving Inhabited, BEq, Repr

/-- White space that stands between words. -/
def isDateSpace (c : Char) : Bool :=
  let n := c.toNat
  n == 9 || n == 11 || n == 12 || n == 32 || n == 0xA0 || n == 0x1680 ||
    (0x2000 ≤ n && n ≤ 0x200A) || n == 0x202F || n == 0x205F || n == 0x3000 || n == 0xFEFF

/-- White space or a line terminator. -/
def isDateSpaceOrBreak (c : Char) : Bool :=
  isDateSpace c || c == '\n' || c == '\r' || c.toNat == 0x2028 || c.toNat == 0x2029

/-- Whether a character belongs to a word. -/
def isWordChar (c : Char) : Bool := c.toNat ≥ 'A'.toNat && !isDateSpace c

/-- The known words: their first three letters (padded with NUL), kind and value. -/
def keywords : List (List Char × WordKind × Int) :=
  [(['j', 'a', 'n'], .monthName, 1), (['f', 'e', 'b'], .monthName, 2),
   (['m', 'a', 'r'], .monthName, 3), (['a', 'p', 'r'], .monthName, 4),
   (['m', 'a', 'y'], .monthName, 5), (['j', 'u', 'n'], .monthName, 6),
   (['j', 'u', 'l'], .monthName, 7), (['a', 'u', 'g'], .monthName, 8),
   (['s', 'e', 'p'], .monthName, 9), (['o', 'c', 't'], .monthName, 10),
   (['n', 'o', 'v'], .monthName, 11), (['d', 'e', 'c'], .monthName, 12),
   (['a', 'm', '\x00'], .amPm, 0), (['p', 'm', '\x00'], .amPm, 12),
   (['u', 't', '\x00'], .zoneName, 0), (['u', 't', 'c'], .zoneName, 0),
   (['z', '\x00', '\x00'], .zoneName, 0), (['g', 'm', 't'], .zoneName, 0),
   (['c', 'd', 't'], .zoneName, -5), (['c', 's', 't'], .zoneName, -6),
   (['e', 'd', 't'], .zoneName, -4), (['e', 's', 't'], .zoneName, -5),
   (['m', 'd', 't'], .zoneName, -6), (['m', 's', 't'], .zoneName, -7),
   (['p', 'd', 't'], .zoneName, -7), (['p', 's', 't'], .zoneName, -8),
   (['t', '\x00', '\x00'], .timeSeparator, 0)]

/-- The token of a word: matched by its first three characters, each with bit 5
set; a word longer than three characters is known only as a month name. -/
def wordToken (chars : List Char) : DateToken :=
  let lowered := (chars.take 3).map fun c => Char.ofNat (c.toNat ||| 0x20)
  let lead := lowered ++ List.replicate (3 - lowered.length) '\x00'
  let len := chars.length
  match keywords.find? fun (key, kind, _) => key == lead && (len ≤ 3 || kind == .monthName) with
  | some (_, kind, value) => .word kind value len
  | none => .word .unknown 0 len

/-- The value of a run of digits: leading zeros are skipped and at most nine
significant digits count. -/
def numeralValue (digits : List Char) : Nat :=
  ((digits.dropWhile (· == '0')).take 9).foldl (fun n c => n * 10 + (c.toNat - '0'.toNat)) 0

/-- Skip a parenthesised comment whose nesting depth is `depth`. -/
def skipComment : List Char → Nat → List Char
  | [], _ => []
  | c :: rest, depth =>
    if c == ')' then (if depth ≤ 1 then rest else skipComment rest (depth - 1))
    else if c == '(' then skipComment rest (depth + 1)
    else skipComment rest depth

/-- The tokens of a text, ending with `endOfInput`. -/
def tokenize (cs : List Char) : List DateToken :=
  go cs.length cs
where
  /-- Tokenize with `fuel` bounding the number of tokens. -/
  go : Nat → List Char → List DateToken
    | 0, _ => [.endOfInput]
    | _ + 1, [] => [.endOfInput]
    | fuel + 1, c :: rest =>
      if c.isDigit then
        let digits := (c :: rest).takeWhile Char.isDigit
        .number (numeralValue digits) digits.length :: go fuel ((c :: rest).drop digits.length)
      else if c == ':' || c == '-' || c == '+' || c == '.' || c == ')' then
        .symbol c :: go fuel rest
      else if isWordChar c then
        let chars := (c :: rest).takeWhile isWordChar
        wordToken chars :: go fuel ((c :: rest).drop chars.length)
      else if isDateSpaceOrBreak c then .whiteSpace :: go fuel rest
      else if c == '(' then .unknown :: go fuel (skipComment rest 1)
      else .unknown :: go fuel rest

namespace DateToken

/-- Whether a token is a sign symbol. -/
def isSign : DateToken → Bool
  | .symbol '+' | .symbol '-' => true
  | _ => false

/-- Whether a token is the given symbol. -/
def isSymbol (c : Char) : DateToken → Bool
  | .symbol d => c == d
  | _ => false

/-- Whether a token is a number of the given length. -/
def isNumberOfLength (n : Nat) : DateToken → Bool
  | .number _ len => len == n
  | _ => false

/-- Whether a token is the zone word `z`. -/
def isZ : DateToken → Bool
  | .word .zoneName 0 1 => true
  | _ => false

end DateToken

/-- The date parts read so far: up to three numbers, a named month, and whether
the ISO form fixed their order. -/
structure DayParts where
  comps : List Int := []
  namedMonth : Option Int := none
  iso : Bool := false
  deriving Inhabited

/-- The time parts read so far: up to four numbers and an `am`/`pm` shift. -/
structure TimeParts where
  comps : List Int := []
  hourOffset : Option Int := none
  deriving Inhabited

/-- The zone read so far. -/
structure ZoneParts where
  sign : Option Int := none
  hour : Option Int := none
  minute : Option Int := none
  deriving Inhabited

/-- Whether `x` lies between `lo` and `hi`, both included. -/
def within (x lo hi : Int) : Bool := lo ≤ x && x ≤ hi

namespace DayParts

/-- Add a date part; fails when there are three already. -/
def add (d : DayParts) (n : Int) : Option DayParts :=
  if d.comps.length < 3 then some { d with comps := d.comps ++ [n] } else none

/-- The year, zero-based month and day of the parts. -/
def finish (d : DayParts) : Option (Int × Int × Int) :=
  if d.comps.isEmpty then none
  else
    let c := d.comps ++ List.replicate (3 - d.comps.length) 1
    let c0 := c.getD 0 1
    let c1 := c.getD 1 1
    let c2 := c.getD 2 1
    let (year, month, day) := match d.namedMonth with
      | none => if d.iso || !within c0 1 31 then (c0, c1, c2) else (c2, c0, c1)
      | some m => if !within c0 1 31 then (c0, m, c1) else (c1, m, c0)
    let year := if d.iso then year
      else if within year 0 49 then year + 2000
      else if within year 50 99 then year + 1900
      else year
    if within month 1 12 && within day 1 31 then some (year, month - 1, day) else none

end DayParts

namespace TimeParts

/-- Whether the next time part would take `n`. -/
def expects (t : TimeParts) (n : Int) : Bool :=
  (t.comps.length == 1 && within n 0 59) || (t.comps.length == 2 && within n 0 59) ||
    (t.comps.length == 3 && within n 0 999)

/-- Add a time part; fails when there are four already. -/
def add (t : TimeParts) (n : Int) : Option TimeParts :=
  if t.comps.length < 4 then some { t with comps := t.comps ++ [n] } else none

/-- Add the last time part and fill the rest with zeros. -/
def addFinal (t : TimeParts) (n : Int) : Option TimeParts :=
  (t.add n).map fun t => { t with comps := t.comps ++ List.replicate (4 - t.comps.length) 0 }

/-- The milliseconds into the day of the parts. -/
def finish (t : TimeParts) : Option Int :=
  let c := t.comps ++ List.replicate (4 - t.comps.length) 0
  let hour := c.getD 0 0
  let minute := c.getD 1 0
  let second := c.getD 2 0
  let ms := c.getD 3 0
  let hour? : Option Int := match t.hourOffset with
    | some offset => if within hour 0 12 then some (hour % 12 + offset) else none
    | none => some hour
  hour?.bind fun hour =>
    let inRange := within hour 0 23 && within minute 0 59 && within second 0 59 && within ms 0 999
    let midnight := hour == 24 && minute == 0 && second == 0 && ms == 0
    if inRange || midnight then some (hour * 3600000 + minute * 60000 + second * 1000 + ms)
    else none

end TimeParts

namespace ZoneParts

/-- Set a whole-hour offset. -/
def setHours (z : ZoneParts) (offset : Int) : ZoneParts :=
  { z with sign := some (if offset < 0 then -1 else 1), hour := some offset.natAbs, minute := some 0 }

/-- Whether the next number is the zone's minutes. -/
def expects (z : ZoneParts) (n : Int) : Bool := z.hour.isSome && z.minute.isNone && within n 0 59

/-- Whether the zone is UTC. -/
def isUTC (z : ZoneParts) : Bool := z.hour == some 0 && z.minute == some 0

/-- The offset in seconds east of UTC; `some none` for local time (no zone), and
`none` when the offset is too large.  The seconds are counted in 32-bit unsigned
arithmetic, so a huge hour count wraps around before the bound is checked. -/
def finish (z : ZoneParts) : Option (Option Int) :=
  match z.sign with
  | none => some none
  | some sign =>
    let total := (z.hour.getD 0 * 3600 + z.minute.getD 0 * 60) % 4294967296
    if total > 2147483647 then none else some (some (sign * total))

end ZoneParts

/-- The milliseconds of a fraction from its number token: the first three
significant digits, as the number of digits places them. -/
def readMilliseconds (value length : Nat) : Int :=
  if length == 1 then value * 100
  else if length == 2 then value * 10
  else if length ≤ 3 then value
  else (value : Int) / Int.pow 10 (min length 9 - 3)

/-- The state of a date reading. -/
structure DateParts where
  day : DayParts := {}
  time : TimeParts := {}
  zone : ZoneParts := {}
  deriving Inhabited

/-- Drop a leading symbol token. -/
def skipSymbol (c : Char) : List DateToken → List DateToken
  | t :: rest => if t.isSymbol c then rest else t :: rest
  | [] => []

/-- The token at the front. -/
def peek : List DateToken → DateToken
  | t :: _ => t
  | [] => .endOfInput

/-- The time part of the ISO form after `T`: the parts and the tokens left. -/
def readIsoTime (p : DateParts) (ts : List DateToken) : Option DateParts := do
  let (hour, ts) ← match ts with
    | .number h 2 :: rest => if within h 0 24 then some ((h : Int), rest) else none
    | _ => none
  let is24 := hour == 24
  let ts ← match ts with
    | .symbol ':' :: rest => some rest
    | _ => none
  let (minute, ts) ← match ts with
    | .number m 2 :: rest => if within m 0 59 && !(is24 && m > 0) then some ((m : Int), rest) else none
    | _ => none
  let time : TimeParts := { comps := [hour, minute] }
  let (time, ts) ← match ts with
    | .symbol ':' :: rest =>
      match rest with
      | .number s 2 :: rest2 =>
        if !within s 0 59 || (is24 && s > 0) then none
        else
          let time := { time with comps := time.comps ++ [(s : Int)] }
          match rest2 with
          | .symbol '.' :: rest3 =>
            match rest3 with
            | .number f len :: rest4 =>
              if is24 && f > 0 then none
              else some ({ time with comps := time.comps ++ [readMilliseconds f len] }, rest4)
            | _ => none
          | _ => some (time, rest2)
      | _ => none
    | _ => some (time, ts)
  let (zone, ts) ← match ts with
    | t :: rest =>
      if t.isZ then some (p.zone.setHours 0, rest)
      else if t.isSign then
        let sign : Int := if t.isSymbol '+' then 1 else -1
        match rest with
        | .number hm 4 :: rest2 =>
          let h := hm / 100
          let m := hm % 100
          if within h 0 23 && within m 0 59 then
            some ({ p.zone with sign := some sign, hour := some h, minute := some m }, rest2)
          else none
        | .number h 2 :: .symbol ':' :: .number m 2 :: rest2 =>
          if within h 0 23 && within m 0 59 then
            some ({ p.zone with sign := some sign, hour := some h, minute := some m }, rest2)
          else none
        | _ => none
      else some (p.zone, t :: rest)
    | [] => some (p.zone, [])
  if peek ts != .endOfInput then none
  some { p with time, zone }

/-- The outcome of trying the ISO form. -/
inductive IsoRead where
  /-- The text is an invalid date. -/
  | invalid
  /-- The whole text was read. -/
  | done (p : DateParts)
  /-- The legacy rules go on from a token, with the tokens after it. -/
  | rest (p : DateParts) (next : DateToken) (ts : List DateToken)
  deriving Inhabited

/-- Hand the front token to the legacy rules. -/
def handOver (p : DateParts) : List DateToken → IsoRead
  | t :: rest => .rest p t rest
  | [] => .done p

/-- Try the ISO form. -/
def readIso (ts : List DateToken) : IsoRead :=
  let start : Option (DateParts × List DateToken) ⊕ IsoRead := match ts with
    | t :: rest =>
      if t.isSign then
        match rest with
        | .number y 6 :: rest2 =>
          let sign : Int := if t.isSymbol '+' then 1 else -1
          if sign < 0 && y == 0 then .inr (.rest {} t rest2)
          else .inl (some ({ day := { comps := [sign * y] } }, rest2))
        | _ => .inr (.rest {} t rest)
      else match t with
        | .number y 4 => .inl (some ({ day := { comps := [(y : Int)] } }, rest))
        | _ => .inr (handOver {} (t :: rest))
    | [] => .inr (.done {})
  match start with
  | .inr r => r
  | .inl none => .invalid
  | .inl (some (p, ts)) =>
    -- month and day
    let dated : DateParts × List DateToken ⊕ IsoRead := match ts with
      | .symbol '-' :: rest =>
        match rest with
        | .number m 2 :: rest2 =>
          if !within m 1 12 then .inr (handOver p rest)
          else
            let p := { p with day := { p.day with comps := p.day.comps ++ [(m : Int)] } }
            match rest2 with
            | .symbol '-' :: rest3 =>
              match rest3 with
              | .number d 2 :: rest4 =>
                if !within d 1 31 then .inr (handOver p rest3)
                else .inl ({ p with day := { p.day with comps := p.day.comps ++ [(d : Int)] } }, rest4)
              | _ => .inr (handOver p rest3)
            | _ => .inl (p, rest2)
        | _ => .inr (handOver p rest)
      | _ => .inl (p, ts)
    match dated with
    | .inr r => r
    | .inl (p, ts) =>
      match ts with
      | .word .timeSeparator _ _ :: rest =>
        match readIsoTime p rest with
        | none => .invalid
        | some p => .done { p with day := { p.day with iso := true } }
      | _ =>
        if peek ts != .endOfInput then handOver p ts
        else .done { day := { p.day with iso := true }, zone := p.zone.setHours 0, time := p.time }

/-- The state of the legacy rules: the parts, whether a number was read, and
the tokens left. -/
structure LegacyState where
  parts : DateParts
  sawNumber : Bool
  deriving Inhabited

/-- Read one number token by the legacy rules. -/
def legacyNumber (s : LegacyState) (n : Nat) (ts : List DateToken) :
    Option (LegacyState × List DateToken) :=
  let p := s.parts
  let s := { s with sawNumber := true }
  let n' : Int := n
  match ts with
  | .symbol ':' :: .symbol ':' :: rest =>
    if !p.time.comps.isEmpty then none
    else
      (p.time.add n').bind fun t => (t.add 0).map fun t =>
        ({ s with parts := { p with time := t } }, rest)
  | .symbol ':' :: rest =>
    (p.time.add n').map fun t =>
      ({ s with parts := { p with time := t } }, skipSymbol '.' rest)
  | _ =>
    let (sawDot, ts) := match ts with
      | .symbol '.' :: rest => (true, rest)
      | _ => (false, ts)
    if sawDot && p.time.expects n' then
      match ts with
      | .number f len :: rest =>
        (p.time.add n').map fun t =>
          let t := (t.addFinal (readMilliseconds f len)).getD t
          ({ s with parts := { p with time := t } }, rest)
      | _ => none
    else if p.zone.expects n' then
      some ({ s with parts := { p with zone := { p.zone with minute := some n' } } }, ts)
    else if p.time.expects n' then
      (p.time.addFinal n').bind fun t =>
        match peek ts with
        | .endOfInput | .whiteSpace => some ({ s with parts := { p with time := t } }, ts)
        | t' => if t'.isZ || t'.isSign then some ({ s with parts := { p with time := t } }, ts) else none
    else
      (p.day.add n').map fun d => ({ s with parts := { p with day := d } }, skipSymbol '-' ts)

/-- Read one word token by the legacy rules. -/
def legacyWord (s : LegacyState) (kind : WordKind) (value : Int) (ts : List DateToken) :
    Option (LegacyState × List DateToken) :=
  let p := s.parts
  if kind == .amPm && !p.time.comps.isEmpty then
    some ({ s with parts := { p with time := { p.time with hourOffset := some value } } }, ts)
  else if kind == .monthName then
    some ({ s with parts := { p with day := { p.day with namedMonth := some value } } },
      skipSymbol '-' ts)
  else if kind == .zoneName && s.sawNumber then
    some ({ s with parts := { p with zone := p.zone.setHours value } }, ts)
  else if s.sawNumber then none
  else match peek ts with
    | .number _ _ => none
    | _ => some (s, ts)

/-- Read a sign token by the legacy rules: a zone offset after a time or `UTC`. -/
def legacySign (s : LegacyState) (sign : Int) (ts : List DateToken) :
    Option (LegacyState × List DateToken) :=
  let p := s.parts
  let (n, length, ts) := match ts with
    | .number v len :: rest => ((v : Int), len, rest)
    | _ => (0, 0, ts)
  let zone := { p.zone with sign := some sign }
  let s := { s with sawNumber := true }
  if (peek ts).isSymbol ':' then
    some ({ s with parts := { p with zone := { zone with hour := some n, minute := none } } }, ts)
  else if length == 1 || length == 2 then
    some ({ s with parts := { p with zone := { zone with hour := some n, minute := some 0 } } }, ts)
  else if length == 3 || length == 4 then
    some ({ s with parts := { p with zone := { zone with hour := some (n / 100), minute := some (n % 100) } } }, ts)
  else none

/-- Read tokens by the legacy rules, starting with `t`; `fuel` bounds the steps. -/
def readLegacy : Nat → LegacyState → DateToken → List DateToken → Option DateParts
  | 0, s, _, _ => some s.parts
  | fuel + 1, s, t, ts =>
    let step : Option (LegacyState × List DateToken) := match t with
      | .endOfInput => none
      | .number n _ => legacyNumber s n ts
      | .word kind value _ => legacyWord s kind value ts
      | _ =>
        if t.isSign && (s.parts.zone.isUTC || !s.parts.time.comps.isEmpty) then
          legacySign s (if t.isSymbol '+' then 1 else -1) ts
        else if (t.isSign || t.isSymbol ')') && s.sawNumber then none
        else some (s, ts)
    match t with
    | .endOfInput => some s.parts
    | _ => match step with
      | none => none
      | some (s, ts) => match ts with
        | next :: rest => readLegacy fuel s next rest
        | [] => some s.parts

/-- The time a date text names, in milliseconds since the epoch, or `none` when
it is an invalid date. -/
def parseDate? (text : String) : Option Int := do
  let cs := (Text.unitChars text).takeWhile (· != '\x00')
  let tokens := tokenize cs
  let parts ← match readIso tokens with
    | .invalid => none
    | .done p => some p
    | .rest p t rest =>
      readLegacy (tokens.length + 1) { parts := p, sawNumber := !p.day.comps.isEmpty } t rest
  let (year, month, day) ← parts.day.finish
  let clock ← parts.time.finish
  let offset ← parts.zone.finish
  if !(within year (-1000000) 1000000) then none
  let days := daysFromCivil (year + month / 12) (month % 12 + 1) 1 + day - 1
  let wall := days * msPerDay + clock
  let time ← match offset with
    | none => if wall.natAbs > 8640000864000000 then none else some wall
    | some seconds =>
      let t := wall - seconds * 1000
      if t.natAbs > 8640000000000000 then none else some t
  if time.natAbs > 8640000000000000 then none else some time

end ModelTables.Calendar
