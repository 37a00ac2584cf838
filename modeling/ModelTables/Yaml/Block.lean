import ModelTables.Yaml.Flow

/-! # Block structure

A block node is read from lines, each node owning the lines more indented than
its parent (`blockNode`).  A line starting a node is (`lineNode`):

* a sequence entry `- …`, starting a block sequence at its column;
* an explicit key `? …`, an explicit value `: …`, or an implicit key
  `key: …` (a single-line scalar, alias or flow collection, with its
  properties), starting a block mapping at its column;
* properties alone, which belong to the node on the following lines;
* otherwise an inline node (`inlineNode`): a literal or folded block scalar, an
  alias, a flow collection or a quoted scalar (which may go on over following
  lines), or a plain scalar whose following more-indented lines continue it.

The content after `- `, `? ` and `: ` is read as if it started a line of its own
at its column, so entries may hold compact sequences and mappings.  The value
of an implicit key may be a block sequence at the key's own indentation.  Lines
holding only blanks or a comment separate nodes, and a document marker (`---`
or `...` at the start of a line) ends every node.
-/

namespace ModelTables.Yaml

/-- Where a scan of a flow collection for its brackets is: in plain text (after
a blank or not), in a quote, or in a comment. -/
inductive ScanMode where
  | plain (afterBlank : Bool)
  | quoted (quote : Char)
  | comment

/-- The depth of open brackets left after a text, quotes and comments aside. -/
def openBrackets (cs : List Char) : Int :=
  go cs 0 (.plain true)
where
  /-- Scan from a depth and a mode. -/
  go : List Char → Int → ScanMode → Int
    | [], depth, _ => depth
    | c :: rest, depth, .comment => go rest depth (if c == '\n' then .plain true else .comment)
    | '\\' :: _ :: rest, depth, .quoted '"' => go rest depth (.quoted '"')
    | '\'' :: '\'' :: rest, depth, .quoted '\'' => go rest depth (.quoted '\'')
    | c :: rest, depth, .quoted q => go rest depth (if c == q then .plain false else .quoted q)
    | c :: rest, depth, .plain afterBlank =>
      if c == '"' || c == '\'' then go rest depth (.quoted c)
      else if c == '#' && afterBlank then go rest depth .comment
      else if c == '[' || c == '\x7b' then go rest (depth + 1) (.plain false)
      else if c == ']' || c == '\x7d' then go rest (depth - 1) (.plain false)
      else go rest depth (.plain (isSpaceOrBreak c))

/-- Whether a quoted scalar at the start of a text closes in it. -/
def quoteCloses (cs : List Char) : Bool :=
  match cs with
  | '"' :: rest => (splitDoubleQuoted rest []).isSome
  | '\'' :: rest => (splitSingleQuoted rest []).isSome
  | _ => true

/-- Join the text of a node that starts on a line with the lines after it, until
`done` holds of the joined text; `allowed` says which lines may go on it.  The
lines used up go. -/
def gather (done : List Char → Bool) (allowed : Line → Bool) (first : List Char) :
    List Line → Except String (List Char × List Line)
  | [] => .ok (first, [])
  | l :: rest =>
    if done first then .ok (first, l :: rest)
    else if l.isMarker || !allowed l then .ok (first, l :: rest)
    else gather done allowed (first ++ ['\n'] ++ l.full) rest

/-- Read a plain key at the start of a line: the text before a `:` that is
followed by a blank or ends the line, unless a comment comes first. -/
def plainKey : List Char → List Char → Option (List Char × List Char)
  | [], _ => none
  | ':' :: rest, acc => if endsIndicator false rest then some (acc.reverse, rest) else plainKey rest (':' :: acc)
  | c :: rest, acc =>
    if isBlankChar c && rest.head? == some '#' then none else plainKey rest (c :: acc)

/-- The text after a `:` that follows a key, when one follows. -/
def afterColon (cs : List Char) : Option (List Char) :=
  match trimStart cs with
  | ':' :: rest => if endsIndicator false rest then some rest else none
  | _ => none

/-- Read an implicit key at the start of a line: the key node and the text after
its `:`, when the line is a `key: value` entry. -/
def implicitKey? (text : List Char) : Except String (Option (Node × List Char)) := do
  let (props, r) ← readProps false text
  match r with
  | [] => pure none
  | '*' :: rest =>
    let (name, after) := readName rest
    match afterColon after with
    | some value =>
      if !props.isEmpty then throw "An alias node must not specify any properties"
      pure (some (.alias name, value))
    | none => pure none
  | '"' :: _ | '\'' :: _ =>
    match readQuoted r with
    | .ok (some (style, s, after)) =>
      pure ((afterColon after).map fun value => (.scalar props style s, value))
    | _ => pure none
  | '[' :: _ | '\x7b' :: _ =>
    match readFlowNode r with
    | .ok read =>
      match afterColon read.rest with
      | some value => pure (some (← read.node.withProps props, value))
      | none => pure none
    | .error _ => pure none
  | c :: rest =>
    if c == '#' || c == '|' || c == '>' || c == ']' || c == '\x7d' || badPlainStart c then pure none
    else if (c == '-' || c == '?' || c == ':') && endsIndicator false rest then pure none
    else match plainKey r [] with
      | some (key, value) => pure (some (.scalar props .plain (String.ofList (trimEnd key)), value))
      | none => pure none

/-- Read the plain text of one line of a plain scalar: the text up to a comment
with its trailing blanks dropped, and whether a comment ended it.  A `:`
followed by a blank or the end of the line cannot stand in it. -/
def plainLine : List Char → List Char → Except String (List Char × Bool)
  | [], acc => .ok (trimEnd acc.reverse, false)
  | ':' :: rest, acc =>
    if endsIndicator false rest then .error "Nested mappings are not allowed in compact mappings"
    else plainLine rest (':' :: acc)
  | c :: rest, acc =>
    if isBlankChar c && rest.head? == some '#' then .ok (trimEnd acc.reverse, true)
    else plainLine rest (c :: acc)

/-- Read the lines that continue a plain scalar: those more indented than the
parent, with empty lines between them; a comment ends the scalar. -/
def plainMore (parent : Int) : List Line → List (List Char) → Nat →
    Except String (List (List Char) × List Line)
  | [], acc, _ => .ok (acc.reverse, [])
  | l :: rest, acc, blanks =>
    if l.isMarker then .ok (acc.reverse, l :: rest)
    else if l.isBlank then plainMore parent rest acc (blanks + 1)
    else if (l.indent : Int) > parent && !l.isEmpty then do
      let (text, cut) ← plainLine (trimStart l.text) []
      let pieces := text :: List.replicate blanks [] ++ acc
      if cut then .ok (pieces.reverse, rest) else plainMore parent rest pieces 0
    else .ok (acc.reverse, l :: rest)

/-- The lines a block scalar takes, by its header and its parent's indentation:
empty lines, and lines indented at least as much as its first content line (or
as its indentation indicator asks). -/
def blockScalarLines (header : BlockHeader) (parent : Int) (lines : List Line) : List Line :=
  let base : Nat := if parent < 0 then 0 else parent.toNat
  let threshold : Option Nat :=
    if header.indent > 0 then some (base + header.indent)
    else match lines.find? fun l => !l.text.isEmpty with
      | some l => if (l.indent : Int) > parent then some l.indent else none
      | none => none
  let inside (l : Line) : Bool :=
    !l.isMarker && (l.text.isEmpty || match threshold with
      | some t => l.indent ≥ t
      | none => false)
  lines.takeWhile inside

/-- Read a block scalar whose header follows its indicator. -/
def blockScalar (literal : Bool) (header : List Char) (parent : Int) (props : Props)
    (lines : List Line) : Except String (Node × List Line) := do
  let h ← readBlockHeader header
  let taken := blockScalarLines h parent lines
  let own := taken.map fun l => (l.indent, l.text)
  let own := match taken.getLast? with
    | some l => if l.broken then own ++ [(0, [])] else own
    | none => own
  let base : Nat := if parent < 0 then 0 else parent.toNat
  let text ← blockScalarText literal h base (parent < 0) own
  pure (.scalar props (if literal then .literal else .folded) text, lines.drop taken.length)

/-- Whether a line may go on a flow collection or quoted scalar whose parent is
at `parent`: an empty line, a comment line, or a line more indented than the
parent (a closing bracket may stand at the parent's indentation). -/
def continuesInline (parent : Int) (l : Line) : Bool :=
  l.isBlank || (l.indent : Int) > parent ||
    ((l.indent : Int) == parent && (l.text.head? == some ']' || l.text.head? == some '\x7d'))

/-- Read an inline node: its text starts at `body`, its properties are read, and
its continuation lines are those after it that are more indented than
`parent`. -/
def inlineNode (parent : Int) (props : Props) (body : List Char) (lines : List Line) :
    Except String (Node × List Line) :=
  match body with
  | '|' :: header => blockScalar true header parent props lines
  | '>' :: header => blockScalar false header parent props lines
  | '*' :: rest => do
    if !props.isEmpty then throw "An alias node must not specify any properties"
    let (name, after) := readName rest
    if name.isEmpty then throw "Alias cannot be an empty string"
    if !isRestEmpty after then throw "Unexpected content after an alias"
    pure (.alias name, lines)
  | '[' :: _ | '\x7b' :: _ => do
    let (text, rest) ← gather (fun t => openBrackets t ≤ 0)
      (fun l => l.isEmpty || continuesInline parent l) body lines
    let read ← readFlowNode text
    if !isRestEmpty (read.rest.dropWhile isSpaceOrBreak) then
      throw "Unexpected content after a flow collection"
    if (read.rest.dropWhile isSpaceOrBreak).head? == some '#' &&
        !(read.rest.head?.map isSpaceOrBreak).getD false then
      throw "Comments must be separated from other tokens by white space characters"
    pure (← read.node.withProps props, rest)
  | '"' :: _ | '\'' :: _ => do
    let (text, rest) ← gather quoteCloses (fun l => l.isBlank || (l.indent : Int) > parent) body lines
    match ← readQuoted text with
    | some (style, s, after) =>
      if !isRestEmpty after then throw "Unexpected content after a quoted scalar"
      if after.head? == some '#' then
        throw "Comments must be separated from other tokens by white space characters"
      pure (.scalar props style s, rest)
    | none => throw "Missing closing quote"
  | [] => pure (Node.empty props, lines)
  | c :: rest => do
    if (c == '-' || c == '?' || c == ':') && endsIndicator false rest then
      throw "Block indicators are not allowed here"
    if badPlainStart c || c == ']' || c == '\x7d' || c == '#' then
      throw ("Plain value cannot start with " ++ String.ofList [c])
    let (first, cut) ← plainLine body []
    let (more, rest) ← if cut then pure ([], lines) else plainMore parent lines [] 0
    let raw := ['\n'].intercalate (first :: more)
    pure (.scalar props .plain (String.ofList (foldLines raw)), rest)

mutual

/-- Read the node on the lines more indented than `parent`; with
`seqAtParent`, a block sequence at the parent's own indentation is taken too.
Nothing there is the empty node. -/
def blockNode : Nat → Int → Bool → Props → List Line → Except String (Node × List Line)
  | 0, _, _, _, _ => .error "Document nested too deeply"
  | fuel + 1, parent, seqAtParent, props, lines =>
    match skipEmpty lines with
    | [] => .ok (Node.empty props, [])
    | l :: rest =>
      if l.isMarker then .ok (Node.empty props, l :: rest)
      else if (l.indent : Int) > parent then lineNode fuel parent seqAtParent props l.indent l.text rest
      else if seqAtParent && (l.indent : Int) == parent && isEntryStart l.text then
        blockSequence fuel l.indent props (l :: rest) []
      else .ok (Node.empty props, l :: rest)

/-- Read the node that starts at column `column` of a line whose text from
there is `text`. -/
def lineNode : Nat → Int → Bool → Props → Nat → List Char → List Line →
    Except String (Node × List Line)
  | 0, _, _, _, _, _, _ => .error "Document nested too deeply"
  | fuel + 1, parent, seqAtParent, props, column, text, rest => do
    let line : Line := { indent := column, text }
    if isEntryStart text then blockSequence fuel column props (line :: rest) []
    else if atIndicator false '?' text || atIndicator false ':' text then
      blockMapping fuel column props (line :: rest) []
    else match ← implicitKey? text with
      | some _ => blockMapping fuel column props (line :: rest) []
      | none =>
        let (own, body) ← readProps false text
        let props ← props.merge own
        if isRestEmpty body then blockNode fuel parent seqAtParent props rest
        else inlineNode parent props body rest

/-- Read the entry content after an indicator (`-`, `?` or `:`) at `column`:
on the same line as a node of its own, or on the following lines. -/
def entryNode : Nat → Nat → Bool → List Char → List Line → Except String (Node × List Line)
  | 0, _, _, _, _ => .error "Document nested too deeply"
  | fuel + 1, column, seqAtParent, after, rest =>
    let pad := (after.takeWhile isBlankChar).length
    let body := after.drop pad
    if isRestEmpty body then blockNode fuel column seqAtParent {} rest
    else lineNode fuel column false {} (column + 1 + pad) body rest

/-- Read the entries of a block sequence at indentation `n`. -/
def blockSequence : Nat → Nat → Props → List Line → List Node → Except String (Node × List Line)
  | 0, _, _, _, _ => .error "Document nested too deeply"
  | fuel + 1, n, props, lines, acc =>
    match skipEmpty lines with
    | [] => .ok (.sequence props acc.reverse, [])
    | l :: rest =>
      if l.isMarker then .ok (.sequence props acc.reverse, l :: rest)
      else if l.indent == n && isEntryStart l.text then do
        let (item, rest) ← entryNode fuel n false (l.text.drop 1) rest
        blockSequence fuel n props rest (item :: acc)
      else if l.indent > n then .error "Bad indentation of a sequence entry"
      else .ok (.sequence props acc.reverse, l :: rest)

/-- Read the entries of a block mapping at indentation `n`. -/
def blockMapping : Nat → Nat → Props → List Line → List (Node × Node) →
    Except String (Node × List Line)
  | 0, _, _, _, _ => .error "Document nested too deeply"
  | fuel + 1, n, props, lines, acc =>
    match skipEmpty lines with
    | [] => .ok (.mapping props acc.reverse, [])
    | l :: rest =>
      if l.isMarker || l.indent < n then .ok (.mapping props acc.reverse, l :: rest)
      else if l.indent > n then .error "Bad indentation of a mapping entry"
      else if atIndicator false '?' l.text then do
        let (key, rest) ← entryNode fuel n true (l.text.drop 1) rest
        match skipEmpty rest with
        | m :: more =>
          if !m.isMarker && m.indent == n && atIndicator false ':' m.text then do
            let (value, rest) ← entryNode fuel n true (m.text.drop 1) more
            blockMapping fuel n props rest ((key, value) :: acc)
          else blockMapping fuel n props rest ((key, Node.empty) :: acc)
        | [] => blockMapping fuel n props rest ((key, Node.empty) :: acc)
      else if atIndicator false ':' l.text then do
        let (value, rest) ← entryNode fuel n true (l.text.drop 1) rest
        blockMapping fuel n props rest ((Node.empty, value) :: acc)
      else do
        match ← implicitKey? l.text with
        | some (key, after) =>
          let body := trimStart after
          let (value, rest) ← if isRestEmpty body then blockNode fuel n true {} rest
            else do
              let (own, b) ← readProps false body
              if isRestEmpty b then blockNode fuel n true own rest
              else inlineNode n own b rest
          blockMapping fuel n props rest ((key, value) :: acc)
        | none =>
          if isEntryStart l.text then throw "A block sequence may not be used as an implicit map key"
          else throw "Implicit map keys need to be followed by map values"

end

end ModelTables.Yaml
