import ModelTables.Yaml.Node
import ModelTables.Text.Units

/-! # Scalar texts

The text a scalar stands for, from the characters it is written with:

* `foldLines` folds a plain or single-quoted scalar that spans lines: blanks
  around each line break go, a single break becomes a space, and each further
  empty line becomes a line feed;
* `doubleQuotedText` decodes the escapes of a double-quoted scalar and folds its
  line breaks the same way, keeping escaped characters as they are and dropping
  an escaped line break with the blanks after it;
* `blockScalarText` gives the content of a literal (`|`) or folded (`>`) block
  scalar from its lines, with its indentation and chomping indicators.
-/

namespace ModelTables.Yaml

/-! ## Folding -/

/-- Drop blanks at the start of a text. -/
def trimStart (cs : List Char) : List Char := cs.dropWhile isBlankChar

/-- Drop blanks at the end of a text. -/
def trimEnd (cs : List Char) : List Char := (trimStart cs.reverse).reverse

/-- Fold the line breaks of a scalar: the first line loses its trailing blanks,
the inner lines their blanks at both ends and the last line its leading blanks;
lines are joined by a space, and each empty inner line after the first in a run
adds a line feed instead. -/
def foldLines (cs : List Char) : List Char :=
  match (String.ofList cs).splitOn "\n" with
  | [] => cs
  | [_] => cs
  | first :: rest =>
    let rec go : List String → List Char → List Char → List Char
      | [], res, sep => res ++ sep
      | [last], res, sep => res ++ sep ++ trimStart last.toList
      | line :: more, res, sep =>
        let text := trimEnd (trimStart line.toList)
        if text.isEmpty then
          if sep == ['\n'] then go more (res ++ ['\n']) sep else go more res ['\n']
        else go more (res ++ sep ++ text) [' ']
    go rest (trimEnd first.toList) [' ']

/-! ## Double-quoted scalars -/

/-- The character of an escape `\c`, for the escapes that stand for one fixed
character. -/
def escapeCode? (c : Char) : Option Char :=
  match c with
  | '0' => some (Char.ofNat 0)
  | 'a' => some (Char.ofNat 7)
  | 'b' => some (Char.ofNat 8)
  | 'e' => some (Char.ofNat 27)
  | 'f' => some (Char.ofNat 12)
  | 'n' => some '\n'
  | 'r' => some '\r'
  | 't' | '\t' => some '\t'
  | 'v' => some (Char.ofNat 11)
  | 'N' => some (Char.ofNat 0x85)
  | '_' => some (Char.ofNat 0xA0)
  | 'L' => some (Char.ofNat 0x2028)
  | 'P' => some (Char.ofNat 0x2029)
  | ' ' => some ' '
  | '"' => some '"'
  | '/' => some '/'
  | '\\' => some '\\'
  | _ => none

/-- The number of hex digits after `\x`, `\u` and `\U`. -/
def escapeWidth (c : Char) : Nat :=
  match c with
  | 'x' => 2
  | 'u' => 4
  | 'U' => 8
  | _ => 0

/-- The value of a hex digit. -/
def hexDigitValue? (c : Char) : Option Nat :=
  if c.isDigit then some (c.toNat - '0'.toNat)
  else if 'a' ≤ c && c ≤ 'f' then some (c.toNat - 'a'.toNat + 10)
  else if 'A' ≤ c && c ≤ 'F' then some (c.toNat - 'A'.toNat + 10)
  else none

/-- Where decoding a double-quoted scalar is. -/
inductive QuotedState where
  | normal
  /-- After a line break: the number of further line breaks seen. -/
  | folding (breaks : Nat)
  /-- A run of blanks, kept unless a line break follows. -/
  | blanks (run : List Char)
  | escape
  /-- Hex digits still wanted and the value so far. -/
  | hex (wanted : Nat) (value : Nat)
  /-- Blanks after an escaped line break, dropped. -/
  | skipBlanks
  deriving Inhabited

/-- The text a fold of line breaks leaves. -/
def foldText (breaks : Nat) : List Char :=
  if breaks == 0 then [' '] else List.replicate breaks '\n'

/-- One character of a double-quoted scalar in the normal state. -/
def quotedNormal (c : Char) (acc : List Char) : QuotedState × List Char :=
  if c == '\n' then (.folding 0, acc)
  else if c == '\\' then (.escape, acc)
  else if isBlankChar c then (.blanks [c], acc)
  else (.normal, acc ++ [c])

/-- One character of a double-quoted scalar. -/
def quotedStep (state : QuotedState) (c : Char) (acc : List Char) :
    Except String (QuotedState × List Char) :=
  match state with
  | .normal => .ok (quotedNormal c acc)
  | .folding breaks =>
    if c == '\n' then .ok (.folding (breaks + 1), acc)
    else if isBlankChar c then .ok (.folding breaks, acc)
    else .ok (quotedNormal c (acc ++ foldText breaks))
  | .blanks run =>
    if isBlankChar c then .ok (.blanks (run ++ [c]), acc)
    else if c == '\n' then .ok (.folding 0, acc)
    else .ok (quotedNormal c (acc ++ run))
  | .escape =>
    match escapeCode? c with
    | some e => .ok (.normal, acc ++ [e])
    | none =>
      if c == '\n' then .ok (.skipBlanks, acc)
      else if escapeWidth c > 0 then .ok (.hex (escapeWidth c) 0, acc)
      else .error ("Invalid escape sequence \\" ++ String.ofList [c])
  | .hex wanted value =>
    match hexDigitValue? c with
    | none => .error "Invalid escape sequence"
    | some d =>
      let value := value * 16 + d
      if wanted ≤ 1 then
        if value > 0x10FFFF then .error "Invalid code point"
        else .ok (.normal, acc ++ [Text.unitChar value])
      else .ok (.hex (wanted - 1) value, acc)
  | .skipBlanks =>
    if isBlankChar c then .ok (.skipBlanks, acc) else .ok (quotedNormal c acc)

/-- The text of a double-quoted scalar from the characters between its quotes. -/
def doubleQuotedText (cs : List Char) : Except String String := do
  let (state, acc) ← cs.foldlM (fun (st : QuotedState × List Char) c => quotedStep st.1 c st.2)
    (.normal, [])
  let acc ← match state with
    | .normal | .skipBlanks => pure acc
    | .folding breaks => pure (acc ++ foldText breaks)
    | .blanks run => pure (acc ++ run)
    | .escape | .hex _ _ => throw "Invalid escape sequence"
  return Text.joinHalves (String.ofList acc)

/-- The text of a single-quoted scalar from the characters between its quotes:
folded, then each doubled quote made single. -/
def singleQuotedText (cs : List Char) : String :=
  let rec undouble : List Char → List Char
    | '\'' :: '\'' :: rest => '\'' :: undouble rest
    | c :: rest => c :: undouble rest
    | [] => []
  String.ofList (undouble (foldLines cs))

/-- Split off a double-quoted scalar's inside after its opening quote: the
characters up to the first quote that no backslash escapes, and what follows
that quote. -/
def splitDoubleQuoted : List Char → List Char → Option (List Char × List Char)
  | [], _ => none
  | '\\' :: c :: rest, acc => splitDoubleQuoted rest (c :: '\\' :: acc)
  | '"' :: rest, acc => some (acc.reverse, rest)
  | c :: rest, acc => splitDoubleQuoted rest (c :: acc)

/-- Split off a single-quoted scalar's inside after its opening quote: the
characters up to the first quote that is not doubled, and what follows it. -/
def splitSingleQuoted : List Char → List Char → Option (List Char × List Char)
  | [], _ => none
  | '\'' :: '\'' :: rest, acc => splitSingleQuoted rest ('\'' :: '\'' :: acc)
  | '\'' :: rest, acc => some (acc.reverse, rest)
  | c :: rest, acc => splitSingleQuoted rest (c :: acc)

/-- Read a quoted scalar at the start of a text: its style, its text and what
follows its closing quote; `none` when it does not close. -/
def readQuoted (cs : List Char) : Except String (Option (Style × String × List Char)) :=
  match cs with
  | '"' :: rest =>
    match splitDoubleQuoted rest [] with
    | some (inside, after) => return some (.doubleQuoted, ← doubleQuotedText inside, after)
    | none => .ok none
  | '\'' :: rest =>
    match splitSingleQuoted rest [] with
    | some (inside, after) => .ok (some (.singleQuoted, singleQuotedText inside, after))
    | none => .ok none
  | _ => .ok none

/-! ## Block scalars -/

/-- The header of a block scalar after its `|` or `>`: the chomping indicator
(`+` keeps, `-` strips) and the indentation indicator, each at most once, in
either order. -/
structure BlockHeader where
  chomp : Option Char := none
  indent : Nat := 0
  deriving Inhabited

/-- Read a block scalar header; the rest of its line must be blank or a
comment after a blank. -/
def readBlockHeader (cs : List Char) : Except String BlockHeader := do
  let word := cs.takeWhile fun c => !isBlankChar c && c != '#'
  let header ← word.foldlM (fun (h : BlockHeader) c =>
    if h.chomp.isNone && (c == '+' || c == '-') then pure { h with chomp := some c }
    else if h.indent == 0 && c.isDigit && c != '0' then pure { h with indent := c.toNat - '0'.toNat }
    else throw "Block scalar header includes extra characters") {}
  let rest := cs.drop word.length
  match rest with
  | [] => pure header
  | c :: _ =>
    if isBlankChar c && isRestEmpty rest then pure header
    else throw "Unexpected content after a block scalar header"

/-- Fold the content lines of a folded block scalar, each with its indentation
beyond the scalar's: lines starting with a blank or more indented keep their
breaks, empty lines add line feeds, and other neighbours are joined by a space. -/
def foldBlockLines (lines : List (Nat × List Char)) : List Char :=
  let step (st : List Char × List Char × Bool) (line : Nat × List Char) :=
    let (value, sep, prevMore) := st
    let (extra, content) := line
    if extra > 0 || content.head? == some '\t' then
      let sep := if sep == [' '] then ['\n']
        else if !prevMore && sep == ['\n'] then ['\n', '\n'] else sep
      (value ++ sep ++ List.replicate extra ' ' ++ content, ['\n'], true)
    else if content.isEmpty then
      if sep == ['\n'] then (value ++ ['\n'], sep, prevMore) else (value, ['\n'], prevMore)
    else (value ++ sep ++ content, [' '], false)
  (lines.foldl step ([], [], false)).1

/-- The content of a block scalar from its lines (each its indentation and the
text after it; a final empty line stands for a last line break), the indentation
of its parent and whether it stands at the document's root. -/
def blockScalarText (literal : Bool) (header : BlockHeader) (parent : Nat) (atRoot : Bool)
    (lines : List (Nat × List Char)) : Except String String := do
  let isEmptyLine (l : Nat × List Char) : Bool := l.2.isEmpty
  let trailingEmpty := (lines.reverse.takeWhile isEmptyLine).length
  let chompStart := lines.length - trailingEmpty
  if chompStart == 0 then
    let value := if header.chomp == some '+' && lines.length > 0 then
        String.ofList (List.replicate (max 1 (lines.length - 1)) '\n')
      else ""
    return value
  let leading := lines.takeWhile isEmptyLine
  let firstContent := (lines.drop leading.length).headD (0, [])
  let trimIndent := if header.indent == 0 then
      leading.foldl (fun t l => if l.1 > t then l.1 else t) parent
    else parent + header.indent
  if firstContent.1 < trimIndent then
    throw "Block scalars with more-indented leading empty lines must use an explicit indentation indicator"
  let trimIndent := if header.indent == 0 then firstContent.1 else trimIndent
  if trimIndent == 0 && !atRoot then throw "Block scalar values in collections must be indented"
  let chompStart := (lines.zipIdx.filter fun (l, i) => i ≥ chompStart && l.1 > trimIndent).foldl
    (fun c (_, i) => max c (i + 1)) chompStart
  let body := (lines.take chompStart).drop leading.length
  if body.any fun l => !l.2.isEmpty && l.1 < trimIndent then
    throw "Block scalar lines must not be less indented than their first line"
  let leadingText := leading.flatMap fun l => List.replicate (l.1 - trimIndent) ' ' ++ ['\n']
  let content := if literal then
      ['\n'].intercalate (body.map fun l => List.replicate (l.1 - trimIndent) ' ' ++ l.2)
    else foldBlockLines (body.map fun l => (l.1 - trimIndent, l.2))
  let value := leadingText ++ content
  let value := match header.chomp with
    | some '-' => value
    | some '+' =>
      let kept := value ++ ((lines.drop chompStart).flatMap fun l =>
        '\n' :: List.replicate (l.1 - trimIndent) ' ')
      if kept.getLast? == some '\n' then kept else kept ++ ['\n']
    | _ => value ++ ['\n']
  return String.ofList value

end ModelTables.Yaml
