import ModelTables.Glob.Braces
import ModelTables.Glob.Segment

/-! # Matching labels against glob patterns

`Glob.labelMatches label pattern` decides whether a model label such as `blog.Post`
matches a pattern such as `blog.*`.  A pattern is expanded for braces, each
expansion is split at runs of `/` into segments, and the label, split the same
way, must match one expansion segment by segment.  A `**` segment stands for any
number of segments other than `.` and `..`.

`#` and `!` at the start of a pattern have no special meaning, and the empty
pattern matches only the empty label.

Patterns and labels are read unit by unit: a character above U+FFFF is two
characters here, its two surrogate units, as in `[😀]`, a class of two units.

A pattern is compiled whole before any label is tested, and a segment whose
expression cannot be compiled (see `Segment.compile`) makes matching fail with
the reason.
-/

namespace ModelTables.Glob

/-- Split at every run of `/`. -/
def splitSlashes (s : String) : List String :=
  let rec go : List Char → List Char → Bool → List String
    | [], acc, _ => [String.ofList acc.reverse]
    | '/' :: rest, acc, true => go rest acc true
    | '/' :: rest, acc, false => String.ofList acc.reverse :: go rest [] true
    | c :: rest, acc, _ => go rest (c :: acc) false
  go s.toList [] false

/-- Drop repeated `**` segments and resolve `..` after an ordinary segment. -/
def simplifySegments (parts : List String) : List String :=
  let kept := parts.foldl (fun (set : List String) part =>
    match set.getLast? with
    | some prev =>
      if part == "**" && prev == "**" then set
      else if part == ".." && prev != "" && prev != ".." && prev != "." && prev != "**" then
        set.dropLast
      else set ++ [part]
    | none => set ++ [part]) []
  if kept.isEmpty then [""] else kept

/-- Match segments against names from position `fi` on, without `**`: every
segment must match, and the names may go one further only with an empty name
(a trailing slash). -/
def matchSegments (names : Array String) : List Segment → Nat → Bool
  | [], fi => fi == names.size || (fi + 1 == names.size && names[fi]? == some "")
  | seg :: rest, fi =>
    match names[fi]? with
    | none => false
    | some name => seg.test name && matchSegments names rest (fi + 1)

/-- Whether a name is `.` or `..`, which `**` never covers. -/
def isTraversal (name : String) : Bool := name == "." || name == ".."

/-- The search for the middle parts of a pattern with several `**`: each part is
a run of segments with the earliest position `after` past which it may not
start.  The answer is `some true` on a match, `some false` when a `.` or `..`
name stops the search, and `none` when the positions run out. -/
def matchMiddle (names : Array String) : Nat → List (List Segment × Int) → Nat → Bool →
    Option Bool
  | 0, _, _, _ => none
  | _ + 1, [], fi, sawTail =>
    let rest := names.toList.drop fi
    if rest.any isTraversal then some false else some (sawTail || !rest.isEmpty)
  | fuel + 1, (body, after) :: more, fi, sawTail =>
    scanSection names body after (fun j => matchMiddle names fuel more j sawTail) (names.size + 2) fi
where
  /-- Try the part `body` at each position from `i` up to `after`; `next` matches
  what follows it. -/
  scanSection (names : Array String) (body : List Segment) (after : Int)
      (next : Nat → Option Bool) : Nat → Nat → Option Bool
    | 0, _ => none
    | steps + 1, i =>
      if (i : Int) > after then none
      else
        let hit := matchSegments (names.extract 0 (i + body.length)) body i
        let sub := if hit then next (i + body.length) else some false
        if hit && sub != some false then sub
        else if (names[i]?.map isTraversal).getD false then some false
        else scanSection names body after next steps (i + 1)

/-- Split a list at every `**`. -/
def splitAtGlobstar : List Segment → List (List Segment)
  | [] => [[]]
  | .globstar :: rest => [] :: splitAtGlobstar rest
  | seg :: rest => match splitAtGlobstar rest with
    | first :: others => (seg :: first) :: others
    | [] => [[seg]]

/-- Match names against segments that include `**`: the part before the first
`**` and the part after the last must match at the ends, and the parts between
are searched for in order. -/
def matchWithGlobstar (names : Array String) (segs : List Segment) : Bool :=
  let pieces := splitAtGlobstar segs
  let head := pieces.headD []
  let tail := pieces.getLastD []
  let body := (pieces.drop 1).dropLast
  let headOk := head.isEmpty || matchSegments (names.extract 0 head.length) head 0
  if !headOk then false
  else
    let fileIndex := head.length
    let tailMatch : Option Nat :=
      if tail.isEmpty then some 0
      else if tail.length + fileIndex > names.size then none
      else
        let tailStart := names.size - tail.length
        if matchSegments names tail tailStart then some tail.length
        else if names.back? != some "" || fileIndex + tail.length == names.size then none
        else if matchSegments names tail (tailStart - 1) then some (tail.length + 1)
        else none
    match tailMatch with
    | none => false
    | some fileTailMatch =>
      if body.isEmpty then
        let middle := (names.toList.drop fileIndex).take (names.size - fileTailMatch - fileIndex)
        if middle.any isTraversal then false else fileTailMatch > 0 || !middle.isEmpty
      else
        let fileLength : Int := names.size - fileTailMatch
        let counts := body.map List.length
        let sums := (List.range body.length).map fun k => (counts.take k).foldr (· + ·) 0
        let n := body.length
        let sections := body.zipIdx.map fun (b, j) =>
          (b, fileLength - ((sums.getD (n - 1 - j) 0 : Nat) + b.length : Int))
        matchMiddle names (body.length + 1) sections fileIndex (fileTailMatch > 0) == some true

/-- Match names against one expansion of a pattern. -/
def matchExpansion (names : Array String) (segs : List Segment) : Bool :=
  if segs.any (fun | .globstar => true | _ => false) then matchWithGlobstar names segs
  else matchSegments names segs 0

/-- A compiled pattern. -/
inductive Pattern where
  /-- The empty pattern: only the empty label matches. -/
  | empty
  /-- The expansions of a pattern, each as its segments. -/
  | expansions (sets : List (List Segment))
  deriving Inhabited

/-- A text with one character per UTF-16 unit, as patterns and labels are read. -/
def unitText (s : String) : String := String.ofList (Text.unitChars s)

/-- Compile a pattern: every segment of every expansion, in order.  The first
segment that cannot be compiled makes the whole pattern invalid, whatever label
it is later tested on. -/
def Pattern.compile (pattern : String) : Except String Pattern :=
  if pattern.isEmpty then .ok .empty
  else
    let sets := (Braces.expand (unitText pattern)).map fun p => simplifySegments (splitSlashes p)
    Pattern.expansions <$> sets.mapM fun parts => parts.mapM Segment.compile

/-- Whether a label matches a compiled pattern. -/
def Pattern.test (p : Pattern) (label : String) : Bool :=
  match p with
  | .empty => label.isEmpty
  | .expansions sets =>
    let names := (splitSlashes (unitText label)).toArray
    sets.any (matchExpansion names)

/-- Whether a label matches a pattern; an error when the pattern is invalid. -/
def labelMatches (label pattern : String) : Except String Bool :=
  (Pattern.compile pattern).map (·.test label)

/-- Whether a label matches one of some patterns, tried in order: the patterns
after the first match are never compiled, so an invalid one there is harmless. -/
def anyMatches (label : String) : List String → Except String Bool
  | [] => .ok false
  | p :: rest => do if ← labelMatches label p then pure true else anyMatches label rest

/-- Whether a label passes include and exclude lists: a matching exclude pattern
rejects it; otherwise a missing include list admits every label, and an include
list admits the labels that match one of its patterns (so an empty one admits
none).  The exclude patterns are tried first, and an invalid pattern reached on
the way is an error. -/
def admits (allowed denied : Option (List String)) (label : String) : Except String Bool := do
  if ← anyMatches label (denied.getD []) then return false
  match allowed with
  | none => return true
  | some patterns => anyMatches label patterns

end ModelTables.Glob
