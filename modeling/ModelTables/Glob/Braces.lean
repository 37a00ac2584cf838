/-! # Brace expansion

A pattern such as `app.{Post,Tag}` stands for several patterns, `app.Post` and
`app.Tag`; `a{1..3}` stands for `a1`, `a2`, `a3`.  `Braces.expand` lists them,
following the shell's rules:

* a backslash keeps the next `\`, `{`, `}`, `,` or `.` from acting as syntax, and
  is itself dropped from the result;
* the first balanced `{...}` group is expanded, and everything after it is
  expanded on its own and combined with each choice;
* a group preceded by `$` is left alone;
* a group without a comma that is not a sequence stays as written, unless a comma
  and a closing brace follow it, in which case its closing brace is taken as text
  and the rest is expanded again;
* sequences count up or down, by an optional step, padding with zeros when an end
  point is written with a leading zero;
* at the top level, empty results are dropped except those of a sequence, and a
  leading `{}` is taken as text.

Expansion only happens when the pattern has a `{`, later a `}`, and no `{` or
line break between them.
-/

namespace ModelTables.Glob

/-- A character under brace expansion: plain, or written after a backslash. -/
inductive BraceChar where
  | plain (c : Char)
  | escaped (c : Char)
  deriving DecidableEq, Inhabited

namespace Braces

/-- Read a pattern, marking escaped brace syntax. -/
def escapeText : List Char → List BraceChar
  | [] => []
  | ['\\'] => [.plain '\\']
  | '\\' :: c :: more =>
    if c == '\\' || c == '{' || c == '}' || c == ',' || c == '.' then
      .escaped c :: escapeText more
    else .plain '\\' :: escapeText (c :: more)
  | c :: rest => .plain c :: escapeText rest
termination_by cs => cs.length

/-- The text of marked characters: an escaped character loses its backslash. -/
def unescapeText (cs : List BraceChar) : String :=
  String.ofList (cs.map fun
    | .plain c => c
    | .escaped c => c)

/-- The first index at or after `start` holding the plain character `c`, or `-1`. -/
def indexFrom (s : Array BraceChar) (c : Char) (start : Nat) : Int :=
  match ((List.range (s.size - start)).map (· + start)).find? (fun i => s[i]? == some (.plain c)) with
  | some i => i
  | none => -1

/-- The walk that pairs braces: `begs` holds the open braces not yet closed, most
recent first; `left` and `right` remember the innermost pair closed so far, the
answer when some brace is never closed. -/
def pairBraces (s : Array BraceChar) : Nat → Int → Int → Int → List Int → Int → Int →
    Option (Int × Int)
  | 0, _, _, _, begs, left, right => if begs.isEmpty then none else some (left, right)
  | fuel + 1, i, ai, bi, begs, left, right =>
    if i < 0 then (if begs.isEmpty then none else some (left, right))
    else if i == ai then
      let ai' := indexFrom s '{' (i + 1).toNat
      let next := if ai' < bi && ai' >= 0 then ai' else bi
      pairBraces s fuel next ai' bi (i :: begs) left right
    else match begs with
      | [only] => some (only, bi)
      | beg :: rest =>
        let (left', right') := if beg < left then (beg, bi) else (left, right)
        let bi' := indexFrom s '}' (i + 1).toNat
        let next := if ai < bi' && ai >= 0 then ai else bi'
        pairBraces s fuel next ai bi' rest left' right'
      | [] => none

/-- The first balanced brace group: the text before it, its body and the text
after it. -/
def balanced? (cs : List BraceChar) : Option (List BraceChar × List BraceChar × List BraceChar) :=
  let s := cs.toArray
  let ai := indexFrom s '{' 0
  let bi := indexFrom s '}' (ai + 1).toNat
  if ai >= 0 && bi > 0 then
    (pairBraces s (2 * s.size + 2) ai ai bi [] s.size 0).map fun (a, b) =>
      (cs.take a.toNat, (cs.drop (a.toNat + 1)).take (b.toNat - a.toNat - 1), cs.drop (b.toNat + 1))
  else none

/-- Split at every plain occurrence of a character. -/
def splitAt (sep : Char) (cs : List BraceChar) : List (List BraceChar) :=
  cs.splitOn (.plain sep)

/-- The plain characters of a text, if it has no escaped ones. -/
def plainChars? (cs : List BraceChar) : Option (List Char) :=
  cs.mapM fun
    | .plain c => some c
    | .escaped _ => none

/-- Read `-?digits`, returning the rest. -/
def readSigned? : List Char → Option (List Char)
  | '-' :: rest => readDigits? rest
  | cs => readDigits? cs
where
  /-- Read one or more digits, returning the rest. -/
  readDigits? (cs : List Char) : Option (List Char) :=
    let ds := cs.takeWhile Char.isDigit
    if ds.isEmpty then none else some (cs.drop ds.length)

/-- Whether a text is an optional `..step` with nothing after it. -/
def isStepTail : List Char → Bool
  | [] => true
  | '.' :: '.' :: rest => readSigned? rest == some []
  | _ => false

/-- `-?d+..-?d+` with an optional `..-?d+` step. -/
def isNumericSequence (body : List Char) : Bool :=
  match readSigned? body with
  | some ('.' :: '.' :: rest) => match readSigned? rest with
    | some tail => isStepTail tail
    | none => false
  | _ => false

/-- A letter, in the sense of a sequence end point. -/
def isAsciiLetter (c : Char) : Bool := ('a' ≤ c && c ≤ 'z') || ('A' ≤ c && c ≤ 'Z')

/-- `x..y` for letters, with an optional `..-?d+` step. -/
def isAlphaSequence : List Char → Bool
  | a :: '.' :: '.' :: b :: rest => isAsciiLetter a && isAsciiLetter b && isStepTail rest
  | _ => false

/-- The integer a signed digit text denotes. -/
def signedValue (cs : List Char) : Int :=
  match cs with
  | '-' :: ds => -(digitValue ds : Int)
  | ds => (digitValue ds : Int)
where
  /-- The value of a digit text. -/
  digitValue (ds : List Char) : Nat := ds.foldl (fun n c => n * 10 + (c.toNat - '0'.toNat)) 0

/-- Whether an end point is written with a leading zero (`-?0\d`). -/
def isPadded : List Char → Bool
  | '-' :: '0' :: d :: _ => d.isDigit
  | '0' :: d :: _ => d.isDigit
  | _ => false

/-- The decimal text of an integer. -/
def intText (i : Int) : String := if i < 0 then "-" ++ toString i.natAbs else toString i.natAbs

/-- The members of a sequence body, already split at `..`. -/
def sequenceItems (alpha : Bool) (parts : List (List Char)) : List (List Char) :=
  let valueOf : List Char → Int := fun p =>
    if alpha then match p with
      | c :: _ => if isAsciiLetter c then (c.toNat : Int) else signedValue p
      | [] => 0
    else signedValue p
  let x := valueOf (parts.headD [])
  let y := valueOf (parts.getD 1 [])
  let width := max (parts.headD []).length (parts.getD 1 []).length
  let step : Int := match parts with
    | [_, _, s] => (signedValue s).natAbs
    | _ => 1
  let pad := parts.any isPadded
  if step == 0 then []
  else
    let count := (y - x).natAbs / step.natAbs + 1
    let down := y < x
    (List.range count).map fun (k : Nat) =>
      let i : Int := if down then x - (k : Int) * step else x + (k : Int) * step
      if alpha then
        let c := Char.ofNat i.toNat
        if c == '\\' then [] else [c]
      else
        let text := (intText i).toList
        if pad && text.length < width then
          let zeros := List.replicate (width - text.length) '0'
          if i < 0 then '-' :: zeros ++ text.drop 1 else zeros ++ text
        else text

/-- The line terminators, which end the reach of a closing-brace search. -/
def isBreak (c : Char) : Bool :=
  c == '\n' || c == '\r' || c.toNat == 0x2028 || c.toNat == 0x2029

/-- Whether a comma not followed by another comma is later followed by a closing
brace on the same line. -/
def hasLaterClose : List BraceChar → Bool
  | [] => false
  | .plain ',' :: rest =>
    let afterComma := match rest with
      | .plain ',' :: _ => false
      | _ => closesOnLine rest
    afterComma || hasLaterClose rest
  | _ :: rest => hasLaterClose rest
where
  /-- A plain `}` comes before any line break. -/
  closesOnLine : List BraceChar → Bool
    | [] => false
    | .plain '}' :: _ => true
    | .plain c :: rest =>
      if c == '\n' || c == '\r' || c == ' ' || c == ' ' then false else closesOnLine rest
    | .escaped _ :: rest => closesOnLine rest

/-- Split a group body at its top-level commas; nested groups stay whole. -/
def commaParts : Nat → List BraceChar → List (List BraceChar)
  | 0, _ => [[]]
  | _ + 1, [] => [[]]
  | fuel + 1, cs =>
    match balanced? cs with
    | none => splitAt ',' cs
    | some (pre, body, post) =>
      let p := splitAt ',' pre
      let last := p.getLastD [] ++ [.plain '{'] ++ body ++ [.plain '}']
      let postParts := commaParts fuel post
      if post.isEmpty then p.dropLast ++ [last]
      else p.dropLast ++ [last ++ postParts.headD []] ++ postParts.tail

/-- Wrap in braces. -/
def embrace (cs : List BraceChar) : List BraceChar := [.plain '{'] ++ cs ++ [.plain '}']

/-- Expand the groups of a text; `top` drops empty results that do not come from
a sequence. -/
def expandFuel : Nat → List BraceChar → Bool → List (List BraceChar)
  | 0, cs, _ => [cs]
  | fuel + 1, cs, top =>
    match balanced? cs with
    | none => [cs]
    | some (pre, body, post) =>
      let posts := if post.isEmpty then [[]] else expandFuel fuel post false
      if pre.getLast? == some (.plain '$') then
        posts.map fun p => pre ++ embrace body ++ p
      else
        let plainBody := plainChars? body
        let numeric := (plainBody.map isNumericSequence).getD false
        let alpha := (plainBody.map isAlphaSequence).getD false
        let sequence := numeric || alpha
        let options := body.contains (.plain ',')
        if !sequence && !options then
          if hasLaterClose post then
            expandFuel fuel (pre ++ [.plain '{'] ++ body ++ [.escaped '}'] ++ post) false
          else [cs]
        else
          let emit := fun (choices : List (List BraceChar)) =>
            choices.flatMap fun choice => (posts.map fun p => pre ++ choice ++ p).filter
              fun e => !top || sequence || !e.isEmpty
          if sequence then
            let parts := ((plainBody.getD []).splitOn '.').filter (!·.isEmpty)
            emit ((sequenceItems alpha parts).map fun cs => cs.map BraceChar.plain)
          else
            match commaParts (body.length + 1) body with
            | [only] =>
              match (expandFuel fuel only false).map embrace with
              | [one] => posts.map fun p => pre ++ one ++ p
              | again => emit (again.flatMap fun part => expandFuel fuel part false)
            | parts => emit (parts.flatMap fun part => expandFuel fuel part false)

/-- Whether a pattern has a `{`, later a `}`, and no `{` or line break between. -/
def hasGroup (cs : List Char) : Bool :=
  match cs with
  | [] => false
  | '{' :: rest => closes rest || hasGroup rest
  | _ :: rest => hasGroup rest
where
  /-- A `}` comes before any `{` or line break. -/
  closes : List Char → Bool
    | [] => false
    | '}' :: _ => true
    | c :: rest =>
      if c == '{' || c == '\n' || c == '\r' || c == ' ' || c == ' ' then false
      else closes rest

/-- Remove repeated texts, keeping first occurrences. -/
def dedupe (xs : List String) : List String :=
  xs.foldl (fun acc x => if acc.contains x then acc else acc ++ [x]) []

/-- The patterns a pattern stands for, without repeats. -/
def expand (pattern : String) : List String :=
  let cs := pattern.toList
  if !hasGroup cs then [pattern]
  else
    let marked := match cs with
      | '{' :: '}' :: rest => .escaped '{' :: .escaped '}' :: escapeText rest
      | _ => escapeText cs
    let fuel := (marked.length + 2) * (marked.length + 2)
    dedupe ((expandFuel fuel marked true).map unescapeText)

end Braces

end ModelTables.Glob
