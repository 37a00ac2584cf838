import ModelTables.Glob.Regex

/-! # Compiling one path segment of a glob

A segment such as `*.Post`, `[a-c]*` or `+(Post|Tag)` compiles to a regular
expression, or to a plain text when it has no wildcard.  Compilation goes through
a small tree:

* **reading** splits the segment into text and extended groups
  `!(…)`, `?(…)`, `+(…)`, `*(…)`, `@(…)` with `|`-separated branches; a group
  never closed is kept as text; groups nest three deep, deeper only when the inner
  kind can merge into the outer one;
* **flattening** merges a branch that is a single group into its parent where the
  two kinds allow it (`@(@(a|b))` is `@(a|b)`, `?(?(a))` is `?(a)`, …);
* **tails**: a negated group must not match what the rest of the segment could,
  so everything after it is copied into each of its branches;
* **source**: each node gives its expression text.  A segment that could match
  `.` or `..` through a wildcard at its start gets a guard against them.

Dots are allowed everywhere: `*` matches names that start with a dot.
-/

namespace ModelTables.Glob

/-- The kinds of extended groups. -/
inductive GroupKind where
  /-- `!(…)`: anything but the branches. -/
  | negated
  /-- `?(…)`: zero or one. -/
  | optional
  /-- `+(…)`: one or more. -/
  | oneOrMore
  /-- `*(…)`: zero or more. -/
  | zeroOrMore
  /-- `@(…)`: exactly one. -/
  | exactlyOne
  deriving DecidableEq, Inhabited, Repr

namespace GroupKind

/-- The kind a character opens, when followed by `(`. -/
def ofChar? : Char → Option GroupKind
  | '!' => some .negated
  | '?' => some .optional
  | '+' => some .oneOrMore
  | '*' => some .zeroOrMore
  | '@' => some .exactlyOne
  | _ => none

/-- The character that opens a kind. -/
def symbol : GroupKind → Char
  | .negated => '!'
  | .optional => '?'
  | .oneOrMore => '+'
  | .zeroOrMore => '*'
  | .exactlyOne => '@'

/-- Whether a group of kind `inner` may nest inside `outer` beyond the depth limit
(and then does not count toward it). -/
def nestsFreely (outer inner : GroupKind) : Bool :=
  match outer with
  | .negated | .optional | .exactlyOne => inner == .optional || inner == .exactlyOne
  | .zeroOrMore => inner != .negated
  | .oneOrMore => inner != .negated

/-- Whether a branch that is a single group of kind `inner` is replaced by that
group's branches. -/
def absorbs (outer inner : GroupKind) : Bool :=
  match outer with
  | .negated => inner == .exactlyOne
  | .optional => inner == .optional || inner == .exactlyOne
  | .exactlyOne => inner == .exactlyOne
  | .zeroOrMore => inner != .negated
  | .oneOrMore => inner == .oneOrMore || inner == .exactlyOne

/-- Whether a branch that is a single group of kind `inner` is replaced by that
group's branches plus an empty one. -/
def absorbsWithEmpty (outer inner : GroupKind) : Bool :=
  match outer with
  | .negated => inner == .optional
  | .exactlyOne => inner == .optional
  | .oneOrMore => inner == .optional || inner == .zeroOrMore
  | _ => false

/-- The kind a lone-branch group takes when its branch is a single group of kind
`inner`, if it takes that group's place. -/
def replacedBy? (outer inner : GroupKind) : Option GroupKind :=
  match outer, inner with
  | .negated, .negated => some .exactlyOne
  | .optional, .zeroOrMore => some .zeroOrMore
  | .optional, .oneOrMore => some .zeroOrMore
  | .exactlyOne, k => some k
  | .oneOrMore, .optional => some .zeroOrMore
  | .oneOrMore, .zeroOrMore => some .zeroOrMore
  | _, _ => none

end GroupKind

mutual

/-- A part of a segment. -/
inductive Part where
  /-- Glob text as written, escapes and classes included. -/
  | text (raw : List Char)
  /-- The text of a group that was never closed, from its opening character on. -/
  | loose (raw : List Char)
  /-- An extended group; `emptyLast` records that its last branch ended with no
  text after the last part, which makes a negated group match any non-empty name. -/
  | group (kind : GroupKind) (branches : List Branch) (emptyLast : Bool)
  deriving Inhabited, Repr

/-- A branch of a group; `leading` tells whether it can stand at the start of the
segment (the branches read from the text can; those added later cannot). -/
inductive Branch where
  | mk (leading : Bool) (parts : List Part)
  deriving Inhabited, Repr

end

namespace Branch

/-- Whether the branch can stand at the start of the segment. -/
def leading : Branch → Bool
  | .mk l _ => l

/-- The parts of the branch. -/
def parts : Branch → List Part
  | .mk _ ps => ps

end Branch

/-! ## Reading -/

/-- Where the reader is with respect to a bracket class: the number of characters
read since `[` and whether the class is negated. -/
abbrev ClassState := Option (Nat × Bool)

/-- Step the class state over one character that is not an escape. -/
def stepClass (c : Char) : ClassState → ClassState
  | some (0, _) => some (1, c == '^' || c == '!')
  | some (k, neg) => if c == ']' && !(k == 1 && neg) then none else some (k + 1, neg)
  | none => if c == '[' then some (0, false) else none

/-- Count a character read inside a class without interpreting it. -/
def countClass : ClassState → ClassState
  | some (k, neg) => some (k + 1, neg)
  | none => none

/-- Add text to a part list, skipping empty text. -/
def pushText (parts : List Part) (acc : List Char) : List Part :=
  if acc.isEmpty then parts else parts ++ [.text acc]

/-- The outcome of reading a group body: its branches, whether the last branch
ended empty, and the text after `)`; `none` when the text ends first. -/
abbrev GroupRead := Option (List Branch × Bool × List Char)

/-- Read the body of a group of `kind` at nesting `depth`, after its `(`.
`parts` and `acc` are the current branch's parts and pending text, `done` the
branches read so far. -/
def readBranches (kind : GroupKind) : Nat → Nat → List Char → Bool → ClassState →
    List Part → List Char → List Branch → GroupRead
  | 0, _, _, _, _, _, _, _ => none
  | _ + 1, _, [], _, _, _, _, _ => none
  | fuel + 1, depth, c :: rest, escaping, cls, parts, acc, done =>
    if escaping || c == '\\' then
      readBranches kind fuel depth rest (!escaping) (countClass cls) parts (acc ++ [c]) done
    else if cls.isSome then
      readBranches kind fuel depth rest false (stepClass c cls) parts (acc ++ [c]) done
    else if c == '[' then
      readBranches kind fuel depth rest false (stepClass c cls) parts (acc ++ [c]) done
    else
      match GroupKind.ofChar? c, rest with
      | some inner, '(' :: body =>
        if depth ≤ 2 || kind.nestsFreely inner then
          let innerDepth := if kind.nestsFreely inner then depth else depth + 1
          match readBranches inner fuel innerDepth body false none [] [] [] with
          | some (branches, emptyLast, after) =>
            readBranches kind fuel depth after false none
              (pushText parts acc ++ [.group inner branches emptyLast]) [] done
          | none => none
        else readBranches kind fuel depth rest false none parts (acc ++ [c]) done
      | _, _ =>
        if c == '|' then
          readBranches kind fuel depth rest false none [] [] (done ++ [.mk true (pushText parts acc)])
        else if c == ')' then
          some (done ++ [.mk true (pushText parts acc)], acc.isEmpty, rest)
        else readBranches kind fuel depth rest false none parts (acc ++ [c]) done

/-- Read the top level of a segment. -/
def readTopLevel : Nat → List Char → Bool → ClassState → List Part → List Char → List Part
  | 0, _, _, _, parts, acc => pushText parts acc
  | _ + 1, [], _, _, parts, acc => pushText parts acc
  | fuel + 1, c :: rest, escaping, cls, parts, acc =>
    if escaping || c == '\\' then
      readTopLevel fuel rest (!escaping) (countClass cls) parts (acc ++ [c])
    else if cls.isSome || c == '[' then
      readTopLevel fuel rest false (stepClass c cls) parts (acc ++ [c])
    else
      match GroupKind.ofChar? c, rest with
      | some kind, '(' :: body =>
        match readBranches kind (body.length + 1) 1 body false none [] [] [] with
        | some (branches, emptyLast, after) =>
          readTopLevel fuel after false none (pushText parts acc ++ [.group kind branches emptyLast]) []
        | none => pushText parts acc ++ [.loose (c :: rest)]
      | _, _ => readTopLevel fuel rest false none parts (acc ++ [c])

/-- Read a segment into parts. -/
def readSegment (segment : String) : List Part :=
  let cs := segment.toList
  readTopLevel (cs.length + 1) cs false none [] []

/-! ## Flattening -/

/-- The group a branch consists of, when it is exactly one group. -/
def Branch.soleGroup? (b : Branch) : Option (GroupKind × List Branch × Bool) :=
  match b.parts with
  | [.group k bs e] => some (k, bs, e)
  | _ => none

/-- One pass over the branches of a group of `kind`, merging branches that are
single groups; `changed` records whether anything merged.  `flat` flattens one
branch first. -/
def mergePass (flat : Branch → Branch) : Nat → Nat → GroupKind → List Branch → Bool → Bool →
    GroupKind × List Branch × Bool × Bool
  | 0, _, kind, branches, emptyLast, changed => (kind, branches, emptyLast, changed)
  | fuel + 1, i, kind, branches, emptyLast, changed =>
    match branches[i]? with
    | none => (kind, branches, emptyLast, changed)
    | some b =>
      let b := flat b
      let branches := branches.set i b
      match b.soleGroup? with
      | some (inner, innerBranches, _) =>
        if kind.absorbs inner then
          mergePass flat fuel (i + 1) kind
            (branches.take i ++ innerBranches ++ branches.drop (i + 1)) emptyLast true
        else if kind.absorbsWithEmpty inner then
          mergePass flat fuel (i + 1) kind
            (branches.take i ++ innerBranches ++ [.mk false [.text []]] ++ branches.drop (i + 1))
            emptyLast true
        else match kind.replacedBy? inner, branches.length with
          | some k, 1 => mergePass flat fuel (i + 1) k innerBranches false true
          | _, _ => mergePass flat fuel (i + 1) kind branches emptyLast changed
      | none => mergePass flat fuel (i + 1) kind branches emptyLast changed

/-- Repeat merge passes until one changes nothing, at most `rounds` times. -/
def mergeRounds (flat : Branch → Branch) (size : Nat) : Nat → GroupKind → List Branch → Bool →
    GroupKind × List Branch × Bool
  | 0, kind, branches, emptyLast => (kind, branches, emptyLast)
  | rounds + 1, kind, branches, emptyLast =>
    let (kind, branches, emptyLast, changed) := mergePass flat size 0 kind branches emptyLast false
    if changed then mergeRounds flat size rounds kind branches emptyLast
    else (kind, branches, emptyLast)

/-- Flatten a part: every group, innermost first. -/
def flattenPart : Nat → Part → Part
  | 0, p => p
  | fuel + 1, .group kind branches emptyLast =>
    let flat : Branch → Branch := fun b => .mk b.leading (b.parts.map (flattenPart fuel))
    let size := (branches.map fun b => b.parts.length + 1).foldr (· + ·) 0 + 1
    let (kind, branches, emptyLast) :=
      mergeRounds flat (4 * size * size + 4) 10 kind branches emptyLast
    .group kind branches emptyLast
  | _ + 1, p => p

/-! ## Tails of negated groups -/

/-- A copy of a part as placed in a tail: empty text disappears, a copied group is
no longer marked as ending empty, and only its first branch can lead. -/
def copyPart : Nat → Part → Option Part
  | _, .text [] => none
  | _, .text raw => some (.text raw)
  | _, .loose raw => some (.loose raw)
  | 0, p => some p
  | fuel + 1, .group kind branches _ =>
    some (.group kind (branches.zipIdx.map fun (b, i) =>
      .mk (i == 0) (b.parts.filterMap (copyPart fuel))) false)

/-- Give every negated group its tail: the parts after it, up through every
enclosing branch.  `outer` is what follows the list in the enclosing levels. -/
def fillParts (copyFuel : Nat) : Nat → List Part → List Part → List Part
  | 0, parts, _ => parts
  | _ + 1, [], _ => []
  | fuel + 1, p :: rest, outer =>
    let rest' := fillParts copyFuel fuel rest outer
    let tail := rest' ++ outer
    let filled := match p with
      | .group kind branches emptyLast =>
        let branches := branches.map fun b => Branch.mk b.leading (fillParts copyFuel fuel b.parts tail)
        let branches := if kind == .negated then
            branches.map fun b => Branch.mk b.leading (b.parts ++ tail.filterMap (copyPart copyFuel))
          else branches
        Part.group kind branches emptyLast
      | other => other
    filled :: rest'

/-! ## Bracket classes -/

/-- The POSIX classes: their name, their expression text, whether they need
Unicode mode, and whether they are written as what they exclude. -/
def posixClasses : List (String × String × Bool × Bool) :=
  [("[:alnum:]", "\\p\x7bL\x7d\\p\x7bNl\x7d\\p\x7bNd\x7d", true, false),
   ("[:alpha:]", "\\p\x7bL\x7d\\p\x7bNl\x7d", true, false),
   ("[:ascii:]", "\\x00-\\x7f", false, false),
   ("[:blank:]", "\\p\x7bZs\x7d\\t", true, false),
   ("[:cntrl:]", "\\p\x7bCc\x7d", true, false),
   ("[:digit:]", "\\p\x7bNd\x7d", true, false),
   ("[:graph:]", "\\p\x7bZ\x7d\\p\x7bC\x7d", true, true),
   ("[:lower:]", "\\p\x7bLl\x7d", true, false),
   ("[:print:]", "\\p\x7bC\x7d", true, false),
   ("[:punct:]", "\\p\x7bP\x7d", true, false),
   ("[:space:]", "\\p\x7bZ\x7d\\t\\r\\n\\v\\f", true, false),
   ("[:upper:]", "\\p\x7bLu\x7d", true, false),
   ("[:word:]", "\\p\x7bL\x7d\\p\x7bNl\x7d\\p\x7bNd\x7d\\p\x7bPc\x7d", true, false),
   ("[:xdigit:]", "A-Fa-f0-9", false, false)]

/-- Escape the characters that are special inside a class. -/
def classEscape (s : String) : String :=
  String.join (s.toList.map fun c =>
    if c == '[' || c == ']' || c == '\\' || c == '-' then "\\" ++ c.toString else c.toString)

/-- Whether a character is white space in the sense of regular expressions. -/
def isRegexSpace (c : Char) : Bool :=
  let n := c.toNat
  n == 9 || n == 10 || n == 11 || n == 12 || n == 13 || n == 32 || n == 0xA0 || n == 0x1680 ||
    (0x2000 ≤ n && n ≤ 0x200A) || n == 0x2028 || n == 0x2029 || n == 0x202F || n == 0x205F ||
    n == 0x3000 || n == 0xFEFF

/-- A character written so that it stands for itself in an expression. -/
def regexEscape (c : Char) : String :=
  if "-[]{}()*+?.,\\^$|#".toList.contains c || isRegexSpace c then "\\" ++ c.toString
  else c.toString

/-- Whether `cs` starts with the characters of `prefix` at position `i`. -/
def startsAt (cs : Array Char) (i : Nat) (pre : String) : Bool :=
  (pre.toList.zipIdx.all fun (c, k) => cs[i + k]? == some c)

/-- The result of reading a class: its expression text, whether it needs Unicode
mode, the number of characters it takes (0 when it is not a class) and whether it
is a wildcard. -/
structure ClassRead where
  source : String
  unicode : Bool
  consumed : Nat
  magic : Bool

/-- The state of the class reader. -/
structure ClassScan where
  i : Nat
  ranges : List String
  negs : List String
  sawStart : Bool
  unicode : Bool
  escaping : Bool
  negate : Bool
  rangeStart : Option Char

/-- Read a class starting at `pos` (which holds `[`). -/
def readClass (glob : Array Char) (pos : Nat) : ClassRead :=
  let poison : ClassRead := ⟨"$.", false, glob.size - pos, true⟩
  let rec go : Nat → ClassScan → Sum ClassRead (ClassScan × Nat)
    | 0, st => .inr (st, pos)
    | fuel + 1, st =>
      match glob[st.i]? with
      | none => .inr (st, pos)
      | some c =>
        if (c == '!' || c == '^') && st.i == pos + 1 then go fuel { st with negate := true, i := st.i + 1 }
        else if c == ']' && st.sawStart && !st.escaping then .inr (st, st.i + 1)
        else
          let st := { st with sawStart := true }
          if c == '\\' && !st.escaping then go fuel { st with escaping := true, i := st.i + 1 }
          else
            let posix := if c == '[' && !st.escaping then
                posixClasses.find? fun (name, _, _, _) => startsAt glob st.i name
              else none
            match posix with
            | some (name, text, u, neg) =>
              if st.rangeStart.isSome then .inl poison
              else
                let negs := if neg then st.negs ++ [text] else st.negs
                let ranges := if neg then st.ranges else st.ranges ++ [text]
                go fuel { st with i := st.i + name.length, negs, ranges, unicode := st.unicode || u }
            | none =>
              let st := { st with escaping := false }
              match st.rangeStart with
              | some r =>
                let ranges := if c > r then
                    st.ranges ++ [classEscape r.toString ++ "-" ++ classEscape c.toString]
                  else if c == r then st.ranges ++ [classEscape c.toString]
                  else st.ranges
                go fuel { st with ranges, rangeStart := none, i := st.i + 1 }
              | none =>
                if startsAt glob (st.i + 1) "-]" then
                  let ranges := st.ranges ++ [classEscape (String.ofList [c, '-'])]
                  go fuel { st with ranges, i := st.i + 2 }
                else if startsAt glob (st.i + 1) "-" then
                  go fuel { st with rangeStart := some c, i := st.i + 2 }
                else go fuel { st with ranges := st.ranges ++ [classEscape c.toString], i := st.i + 1 }
  let start : ClassScan := ⟨pos + 1, [], [], false, false, false, false, none⟩
  match go (glob.size + 1) start with
  | .inl r => r
  | .inr (st, endPos) =>
    if endPos < st.i then ⟨"", false, 0, false⟩
    else if st.ranges.isEmpty && st.negs.isEmpty then poison
    else
      match st.negs, st.ranges, st.negate with
      | [], [r], false =>
        match r.toList with
        | [c] => if isLineTerminator c.toNat then ⟨"[" ++ r ++ "]", st.unicode, endPos - pos, true⟩
            else ⟨regexEscape c, false, endPos - pos, false⟩
        | ['\\', c] => if isLineTerminator c.toNat then ⟨"[" ++ r ++ "]", st.unicode, endPos - pos, true⟩
            else ⟨regexEscape c, false, endPos - pos, false⟩
        | _ =>
          ⟨"[" ++ String.join st.ranges ++ "]", st.unicode, endPos - pos, true⟩
      | negs, ranges, negate =>
        let sranges := "[" ++ (if negate then "^" else "") ++ String.join ranges ++ "]"
        let snegs := "[" ++ (if negate then "" else "^") ++ String.join negs ++ "]"
        let comb := if !ranges.isEmpty && !negs.isEmpty then "(" ++ sranges ++ "|" ++ snegs ++ ")"
          else if !ranges.isEmpty then sranges else snegs
        ⟨comb, st.unicode, endPos - pos, true⟩

/-! ## Expression text -/

/-- Characters that keep their backslash when escaped in glob text. -/
def isGlobSpecial (c : Char) : Bool := "().*{}+?[]^$\\!".toList.contains c

/-- The expression text of glob text, whether it has a wildcard, and whether it
needs Unicode mode.  `noEmpty` makes a text of only stars match at least one
character. -/
def textSource (raw : List Char) (noEmpty : Bool) : String × Bool × Bool :=
  let glob := raw.toArray
  let onlyStars := !raw.isEmpty && raw.all (· == '*')
  let rec go : Nat → Nat → Bool → Bool → String → Bool → Bool → String × Bool × Bool
    | 0, _, _, _, re, magic, u => (re, magic, u)
    | fuel + 1, i, escaping, inStar, re, magic, u =>
      match glob[i]? with
      | none => (re, magic, u)
      | some c =>
        if escaping then
          go fuel (i + 1) false false (re ++ (if isGlobSpecial c then "\\" else "") ++ c.toString) magic u
        else if c == '\\' then
          if i + 1 == glob.size then go fuel (i + 1) false inStar (re ++ "\\\\") magic u
          else go fuel (i + 1) true inStar re magic u
        else
          let cls := if c == '[' then readClass glob i else ⟨"", false, 0, false⟩
          if cls.consumed > 0 then
            go fuel (i + cls.consumed) false false (re ++ cls.source) (magic || cls.magic)
              (u || cls.unicode)
          else if c == '*' then
            if inStar then go fuel (i + 1) false true re magic u
            else go fuel (i + 1) false true
              (re ++ (if noEmpty && onlyStars then "[^/]+?" else "[^/]*?")) true u
          else if c == '?' then go fuel (i + 1) false false (re ++ "[^/]") true u
          else go fuel (i + 1) false false (re ++ regexEscape c) magic u
  go (glob.size + 1) 0 false false "" false false

/-- The written text of a part. -/
def partText : Nat → Part → String
  | _, .text raw => String.ofList raw
  | _, .loose raw => String.ofList raw
  | 0, _ => ""
  | fuel + 1, .group kind branches _ =>
    kind.symbol.toString ++ "(" ++
      "|".intercalate (branches.map fun b => String.join (b.parts.map (partText fuel))) ++ ")"

/-- The guard against matching `.` and `..`. -/
def noTraversal : String := "(?!(?:^|/)\\.\\.?(?:$|/))"

/-- Whether an expression text could match `.` or `..` at its start, so that it
needs the guard. -/
def needsGuard (src : String) : Bool :=
  match src.toList with
  | '[' :: _ | '.' :: _ => true
  | '\\' :: '.' :: '[' :: _ | '\\' :: '.' :: '.' :: _ => true
  | '\\' :: '.' :: '\\' :: '.' :: c :: _ => c == '[' || c == '.'
  | _ => false

/-- The expression text of a node, whether it has a wildcard, and whether it
needs Unicode mode. -/
structure Source where
  text : String
  magic : Bool
  unicode : Bool

/-- Whether every part before index `i` is a negated group. -/
def negationsBefore (parts : List Part) (i : Nat) : Bool :=
  (parts.take i).all fun
    | .group .negated _ _ => true
    | _ => false

mutual

/-- The source of a list of parts forming one node: the top level, a branch, or
the text of an unclosed group.  `start` and `finish` say whether the node stands
at the start and at the end of the segment; `inNegation` whether it is a branch of
a negated group, which then must end where the segment does. -/
def partsSource : Nat → List Part → Bool → Bool → Bool → Source
  | 0, _, _, _, _ => ⟨"", false, false⟩
  | fuel + 1, parts, start, finish, inNegation =>
    let noEmpty := start && finish
    let pieces := (parts.zipIdx).map fun (p, i) =>
      match p with
      | .text raw =>
        let (t, m, u) := textSource raw noEmpty
        Source.mk t m u
      | .loose raw =>
        partsSource fuel [.text raw] (start && negationsBefore parts i) finish false
      | .group kind branches emptyLast =>
        groupSource fuel kind branches emptyLast (start && negationsBefore parts i)
          (finish && i + 1 == parts.length)
    let src := String.join (pieces.map (·.text))
    let guard := match parts with
      | [.text raw] => if raw == ['.'] || raw == ['.', '.'] then false else needsGuard src
      | .text _ :: _ => needsGuard src
      | _ => false
    let pre := if start && guard then noTraversal else ""
    let post := if finish && inNegation then "(?:$|\\/)" else ""
    ⟨pre ++ src ++ post, pieces.any (·.magic), pieces.any (·.unicode)⟩

/-- The source of a group. -/
def groupSource : Nat → GroupKind → List Branch → Bool → Bool → Bool → Source
  | 0, _, _, _, _, _ => ⟨"", false, false⟩
  | fuel + 1, kind, branches, emptyLast, start, finish =>
    let negated := kind == .negated
    let sources := branches.map fun b =>
      partsSource fuel b.parts (start && b.leading) (negated || finish) negated
    let kept := if start && finish then sources.filter (!·.text.isEmpty) else sources
    let body := "|".intercalate (kept.map (·.text))
    let unicode := sources.any (·.unicode)
    if start && finish && body.isEmpty && !negated then
      ⟨partText (fuel + 1) (.group kind branches emptyLast), false, false⟩
    else if negated && emptyLast then ⟨"[^/]+?", true, unicode⟩
    else
      let text := match kind with
        | .negated => "(?:(?!(?:" ++ body ++ "))[^/]*?)"
        | .exactlyOne => "(?:" ++ body ++ ")"
        | .optional => "(?:" ++ body ++ ")?"
        | .oneOrMore => "(?:" ++ body ++ ")+"
        | .zeroOrMore => "(?:" ++ body ++ ")*"
      ⟨text, true, unicode⟩

end

/-- Remove the escapes of an expression text that has no wildcard, giving the
text it matches: a one-character class `x[y]` loses its brackets, and a
backslash before any character but `/` is dropped. -/
def unescapeSource (s : String) : String :=
  let rec dropBrackets : Nat → List Char → Bool → List Char
    | 0, cs, _ => cs
    | _ + 1, [], _ => []
    | fuel + 1, c :: '[' :: d :: ']' :: rest, _ =>
      if c != '\\' && !isLineTerminator c.toNat && d != '/' && d != '\\' then
        c :: d :: dropBrackets fuel rest false
      else c :: dropBrackets fuel ('[' :: d :: ']' :: rest) false
    | fuel + 1, '[' :: d :: ']' :: rest, true =>
      if d != '/' && d != '\\' then d :: dropBrackets fuel rest false
      else '[' :: dropBrackets fuel (d :: ']' :: rest) false
    | fuel + 1, c :: rest, _ => c :: dropBrackets fuel rest false
  let rec dropBackslashes : List Char → List Char
    | '\\' :: c :: rest => if c != '/' then c :: dropBackslashes rest else '\\' :: dropBackslashes (c :: rest)
    | c :: rest => c :: dropBackslashes rest
    | [] => []
  termination_by cs => cs.length
  let cs := s.toList
  String.ofList (dropBackslashes (dropBrackets (cs.length + 1) cs true))

/-! ## Segments -/

/-- Quick tests for the most common segment shapes, used instead of the
expression when the segment has a wildcard. -/
inductive QuickTest where
  /-- Only stars: any name but `""`, `.` and `..`. -/
  | anyName
  /-- Stars then text without wildcards: names ending in that text. -/
  | suffix (ext : String)
  /-- Question marks then text: names of that many units, ending in the text,
  other than `.` and `..`. -/
  | width (units : Nat) (ext : String)
  /-- `*.*`: names with a dot, other than `.` and `..`. -/
  | dotted
  /-- `.*`: names starting with a dot, other than `.` and `..`. -/
  | dotName
  deriving Inhabited, Repr

/-- Whether a character is one of those a quick-test suffix cannot hold. -/
def isWildChar (c : Char) : Bool := "+@!?*[(".toList.contains c

/-- The quick test of a segment, if it has one of the common shapes. -/
def QuickTest.of? (segment : String) : Option QuickTest :=
  let cs := segment.toList
  let stars := cs.takeWhile (· == '*')
  let marks := cs.takeWhile (· == '?')
  let afterStars := cs.drop stars.length
  let afterMarks := cs.drop marks.length
  if !stars.isEmpty && afterStars.isEmpty then some .anyName
  else if !stars.isEmpty && !afterStars.any isWildChar then some (.suffix (String.ofList afterStars))
  else if !marks.isEmpty && !afterMarks.any isWildChar then
    some (.width (Text.unitLength segment) (String.ofList afterMarks))
  else if !stars.isEmpty && (match afterStars with
      | '.' :: more => !more.isEmpty && more.all (· == '*')
      | _ => false) then some .dotted
  else match cs with
    | '.' :: more => if !more.isEmpty && more.all (· == '*') then some .dotName else none
    | _ => none

/-- Run a quick test on a name. -/
def QuickTest.test (t : QuickTest) (name : String) : Bool :=
  let special := name == "." || name == ".."
  match t with
  | .anyName => !name.isEmpty && !special
  | .suffix ext => name.endsWith ext
  | .width units ext => Text.unitLength name == units && !special && name.endsWith ext
  | .dotted => !special && name.toList.contains '.'
  | .dotName => !special && name.startsWith "."

/-- A compiled path segment. -/
inductive Segment where
  /-- `**`: any number of path segments. -/
  | globstar
  /-- A segment without wildcards: the name itself. -/
  | literal (name : String)
  /-- A segment with a quick test. -/
  | quick (t : QuickTest)
  /-- A segment tested by an expression, read in Unicode mode or not. -/
  | regex (rx : Rx) (unicode : Bool)
  deriving Inhabited, Repr

/-- The expression text and flags of a segment (not `**`, not empty). -/
def segmentSource (segment : String) : Source :=
  let parts := readSegment segment
  let fuel := segment.length + 2
  let parts := parts.map (flattenPart fuel)
  let parts := fillParts (2 * fuel) (2 * fuel) parts []
  partsSource (4 * fuel) parts true true false

/-- Compile one path segment.  An expression that Unicode mode refuses (an
escape such as `\-` next to a POSIX class) makes the segment, and with it the
whole pattern, invalid; the error text shows the expression. -/
def Segment.compile (segment : String) : Except String Segment :=
  if segment == "**" then .ok .globstar
  else if segment.isEmpty then .ok (.literal "")
  else
    let source := segmentSource segment
    let text := "^" ++ source.text ++ "$"
    if !source.magic then .ok (.literal (unescapeSource source.text))
    else if source.unicode && !escapesAdmitted text.toList false then
      .error ("Invalid regular expression: /" ++ Text.joinHalves text ++ "/u: Invalid escape")
    else match QuickTest.of? segment with
      | some t => .ok (.quick t)
      | none => .ok (.regex ((Rx.parse? source.unicode text).getD Rx.nothing) source.unicode)

/-- Whether a compiled segment (other than `**`) matches a name. -/
def Segment.test (seg : Segment) (name : String) : Bool :=
  match seg with
  | .globstar => false
  | .literal n => n == name
  | .quick t => t.test name
  | .regex rx unicode => rx.test (matchUnits unicode name)

end ModelTables.Glob
