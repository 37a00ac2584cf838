/-! # YAML documents as written

A YAML text is read in two steps: first into the tree of nodes it writes
(`Node`), with each node's tag and anchor as written and each scalar's text after
its quoting and folding are undone; then that tree is composed into a value
(`Yaml.Compose`), where tags and the core schema give scalars their values and
aliases stand for the nodes their anchors mark.

This module holds the node tree and the lines the block structure is read from.
-/

namespace ModelTables.Yaml

/-- How a scalar was written. -/
inductive Style where
  | plain
  | singleQuoted
  | doubleQuoted
  | literal
  | folded
  deriving Inhabited, BEq, Repr

/-- The properties written before a node: a tag (as written, from its `!`) and
an anchor name. -/
structure Props where
  tag : Option String := none
  anchor : Option String := none
  deriving Inhabited, BEq, Repr

namespace Props

/-- Whether no property is written. -/
def isEmpty (p : Props) : Bool := p.tag.isNone && p.anchor.isNone

/-- The properties of both, when they do not both give a tag or both give an
anchor. -/
def merge (outer inner : Props) : Except String Props :=
  if outer.tag.isSome && inner.tag.isSome then .error "A node can have at most one tag"
  else if outer.anchor.isSome && inner.anchor.isSome then
    .error "A node can have at most one anchor"
  else .ok { tag := outer.tag <|> inner.tag, anchor := outer.anchor <|> inner.anchor }

end Props

/-- A node of a YAML document.  An empty node is a plain scalar with empty text. -/
inductive Node where
  | scalar (props : Props) (style : Style) (text : String)
  | sequence (props : Props) (items : List Node)
  | mapping (props : Props) (entries : List (Node × Node))
  | alias (name : String)
  deriving Inhabited, Repr

namespace Node

/-- The empty node with some properties. -/
def empty (props : Props := {}) : Node := .scalar props .plain ""

/-- The properties of a node. -/
def props : Node → Props
  | .scalar p _ _ | .sequence p _ | .mapping p _ => p
  | .alias _ => {}

/-- Add properties written before a node. -/
def withProps (outer : Props) : Node → Except String Node
  | .scalar p s t => return .scalar (← outer.merge p) s t
  | .sequence p items => return .sequence (← outer.merge p) items
  | .mapping p entries => return .mapping (← outer.merge p) entries
  | .alias name =>
    if outer.isEmpty then .ok (.alias name)
    else .error "An alias node must not specify any properties"

end Node

/-! ## Lines -/

/-- One line: its indentation in spaces, the text after it, and whether a line
break ends it. -/
structure Line where
  indent : Nat
  text : List Char
  broken : Bool := true
  deriving Inhabited

/-- Whether a character is a space or a tab. -/
def isBlankChar (c : Char) : Bool := c == ' ' || c == '\t'

/-- The lines of a text.  A carriage return at the end of a line goes with the
line break; the empty rest after a final line break is no line. -/
def toLines (cs : List Char) : List Line :=
  let pieces := (String.ofList cs).splitOn "\n"
  let count := pieces.length
  pieces.zipIdx.filterMap fun (raw, i) =>
    let last := i + 1 == count
    if last && raw.isEmpty then none
    else
      let chars := raw.toList
      let chars := if chars.getLast? == some '\r' then chars.dropLast else chars
      let spaces := (chars.takeWhile (· == ' ')).length
      some { indent := spaces, text := chars.drop spaces, broken := !last }

namespace Line

/-- Whether a line holds only blanks. -/
def isBlank (l : Line) : Bool := l.text.all isBlankChar

/-- Whether a line holds nothing but blanks or a comment. -/
def isEmpty (l : Line) : Bool :=
  match l.text.dropWhile isBlankChar with
  | [] => true
  | '#' :: _ => true
  | _ => false

/-- The full text of a line, indentation included. -/
def full (l : Line) : List Char := List.replicate l.indent ' ' ++ l.text

/-- Whether a line is a document marker (`---` or `...` at the start of a line,
followed by nothing or a blank). -/
def isMarker (l : Line) : Bool :=
  l.indent == 0 && (l.text.take 3 == ['-', '-', '-'] || l.text.take 3 == ['.', '.', '.']) &&
    (match l.text.drop 3 with
      | [] => true
      | c :: _ => isBlankChar c)

end Line

/-- Whether a text is empty or a comment once blanks are dropped. -/
def isRestEmpty (text : List Char) : Bool :=
  match text.dropWhile isBlankChar with
  | [] => true
  | '#' :: _ => true
  | _ => false

/-- Drop leading lines that hold nothing. -/
def skipEmpty (lines : List Line) : List Line := lines.dropWhile Line.isEmpty

/-- Whether a text starts with an indicator (`-`, `?` or `:`) that stands alone:
followed by a blank or by nothing. -/
def startsWithIndicator (c : Char) (text : List Char) : Bool :=
  match text with
  | [d] => d == c
  | d :: e :: _ => d == c && isBlankChar e
  | [] => false

/-- Whether a text starts a block sequence entry. -/
def isEntryStart (text : List Char) : Bool := startsWithIndicator '-' text

end ModelTables.Yaml
