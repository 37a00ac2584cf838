import ModelTables.Yaml.Scalar

/-! # Node properties and flow collections

`readProps` reads the properties written before a node: tags (`!…`, `!!…`,
`!<…>`) and anchors (`&name`), each followed by a blank, a line break or the end
of the node.  `flowNode` reads a node in flow style: a flow sequence `[…]`, a
flow mapping `{…}`, an alias `*name`, a quoted scalar or a plain scalar.

Inside flow collections entries are separated by commas and may span lines; a
plain scalar ends at a flow indicator (`,[]{}`), at a `:` followed by a blank,
a line break or a flow indicator, and at a comment.  A mapping entry is
`key: value`, `key` alone (its value is null), `? key : value` or `: value`
(the key is empty).  A `:` right after a quoted scalar or a flow collection is
a value indicator even without a blank after it.  A sequence entry may be a
single `key: value` pair, which stands for a mapping with that one entry.
A comment starts at a `#` after a blank or a line break and runs to the end of
its line.
-/

namespace ModelTables.Yaml

/-- Whether a character is a flow indicator. -/
def isFlowIndicator (c : Char) : Bool := c == ',' || c == '[' || c == ']' || c == '\x7b' || c == '\x7d'

/-- Whether a character is a blank or a line break. -/
def isSpaceOrBreak (c : Char) : Bool := c == ' ' || c == '\t' || c == '\n' || c == '\r'

/-- Whether what follows an indicator lets it stand alone: nothing, a blank or
a line break, or in flow a flow indicator. -/
def endsIndicator (inFlow : Bool) (rest : List Char) : Bool :=
  match rest with
  | [] => true
  | c :: _ => isSpaceOrBreak c || (inFlow && isFlowIndicator c)

/-- Whether a text starts with an indicator that stands alone. -/
def atIndicator (inFlow : Bool) (c : Char) (cs : List Char) : Bool :=
  match cs with
  | d :: rest => d == c && endsIndicator inFlow rest
  | [] => false

/-! ## Properties -/

/-- Whether a character may stand in a tag. -/
def isTagChar (c : Char) : Bool :=
  (c.toNat < 128 && c.isAlphanum) || "-#;/?:@&=+$_.!~*'()".toList.contains c

/-- Read the characters of a tag after its first `!`: tag characters and `%XX`
escapes. -/
def readTagChars : List Char → List Char → List Char × List Char
  | '%' :: a :: b :: more, acc =>
    if (hexDigitValue? a).isSome && (hexDigitValue? b).isSome then
      readTagChars more (b :: a :: '%' :: acc)
    else (acc.reverse, '%' :: a :: b :: more)
  | c :: more, acc => if isTagChar c then readTagChars more (c :: acc) else (acc.reverse, c :: more)
  | [], acc => (acc.reverse, [])

/-- Read a tag at a `!`: a verbatim tag `!<…>`, or tag characters. -/
def readTag (cs : List Char) : List Char × List Char :=
  match cs with
  | '!' :: '<' :: rest =>
    let inside := rest.takeWhile fun c => !isSpaceOrBreak c && c != '>'
    match rest.drop inside.length with
    | '>' :: after => ('!' :: '<' :: inside ++ ['>'], after)
    | after => ('!' :: '<' :: inside, after)
  | '!' :: rest =>
    let (tag, after) := readTagChars rest []
    ('!' :: tag, after)
  | _ => ([], cs)

/-- Whether a character ends an anchor or alias name. -/
def endsAnchor (c : Char) : Bool := isSpaceOrBreak c || isFlowIndicator c

/-- Read the name after `&` or `*`. -/
def readName (cs : List Char) : String × List Char :=
  let name := cs.takeWhile fun c => !endsAnchor c
  (String.ofList name, cs.drop name.length)

/-- Whether properties may end before this text: at its end, a blank or a line
break, or in flow a comma or a closing bracket. -/
def propsEndOk (inFlow : Bool) (rest : List Char) : Bool :=
  match rest with
  | [] => true
  | c :: _ => isSpaceOrBreak c || (inFlow && (c == ',' || c == ']' || c == '\x7d'))

/-- Read properties at the start of a text with `fuel` bounding their number;
blanks after each are skipped. -/
def readPropsFuel (inFlow : Bool) : Nat → List Char → Props → Except String (Props × List Char)
  | 0, cs, props => .ok (props, cs)
  | fuel + 1, cs, props =>
    match cs with
    | '!' :: _ => do
      let (tag, rest) := readTag cs
      if props.tag.isSome then throw "A node can have at most one tag"
      if !propsEndOk inFlow rest then
        throw "Tags and anchors must be separated from the next token by white space"
      readPropsFuel inFlow fuel (trimStart rest) { props with tag := some (String.ofList tag) }
    | '&' :: rest => do
      let (name, after) := readName rest
      if props.anchor.isSome then throw "A node can have at most one anchor"
      if name.isEmpty then throw "Anchor cannot be an empty string"
      if !propsEndOk inFlow after then
        throw "Tags and anchors must be separated from the next token by white space"
      readPropsFuel inFlow fuel (trimStart after) { props with anchor := some name }
    | _ => .ok (props, cs)

/-- Read the properties at the start of a text and the text after them. -/
def readProps (inFlow : Bool) (cs : List Char) : Except String (Props × List Char) :=
  readPropsFuel inFlow 3 cs {}

/-! ## Flow collections -/

/-- Skip blanks, line breaks and comments; `inComment` tells that a comment is
being skipped, and `spaced` that a blank or a line break comes just before,
which a comment needs. -/
def skipFlowSpaceIn : List Char → Bool → Bool → Except String (List Char)
  | [], _, _ => .ok []
  | c :: rest, true, _ => skipFlowSpaceIn rest (c != '\n') true
  | c :: rest, false, spaced =>
    if isSpaceOrBreak c then skipFlowSpaceIn rest false true
    else if c == '#' then
      if spaced then skipFlowSpaceIn rest true true
      else .error "Comments must be separated from other tokens by white space characters"
    else .ok (c :: rest)

/-- Skip blanks, line breaks and comments; `spaced` tells whether a blank or a
line break comes just before. -/
def skipFlowSpace (cs : List Char) (spaced : Bool) : Except String (List Char) :=
  skipFlowSpaceIn cs false spaced

/-- Read a plain scalar in flow: its characters up to the last one that is not
blank, and what follows them. -/
def readFlowPlain : List Char → List Char → List Char → List Char × List Char
  | [], acc, _ => (acc.reverse, [])
  | c :: rest, acc, pending =>
    if c == ':' && endsIndicator true rest then (acc.reverse, pending.reverse ++ c :: rest)
    else if isFlowIndicator c then (acc.reverse, pending.reverse ++ c :: rest)
    else if isSpaceOrBreak c then
      if rest.head? == some '#' then (acc.reverse, pending.reverse ++ c :: rest)
      else readFlowPlain rest acc (c :: pending)
    else readFlowPlain rest (c :: pending ++ acc) []

/-- Whether a plain scalar may not start with this character. -/
def badPlainStart (c : Char) : Bool :=
  c == '%' || c == '@' || c == '`' || c == '|' || c == '>' || c == '\t' || c == ','

/-- A node read in flow, whether it was written in a JSON-like way (quoted or as
a flow collection), and what follows it. -/
structure FlowRead where
  node : Node
  jsonLike : Bool
  rest : List Char

mutual

/-- Read a flow node; an empty node stands where none is written. -/
def flowNode : Nat → List Char → Except String FlowRead
  | 0, _ => .error "Flow collection nested too deeply"
  | fuel + 1, cs => do
    let (props, r) ← readProps true cs
    let r ← if props.isEmpty then pure r else skipFlowSpace r true
    match r with
    | '[' :: rest => do
      let (node, after) ← flowItems fuel rest []
      pure { node := ← node.withProps props, jsonLike := true, rest := after }
    | '\x7b' :: rest => do
      let (node, after) ← flowEntries fuel rest []
      pure { node := ← node.withProps props, jsonLike := true, rest := after }
    | '*' :: rest => do
      if !props.isEmpty then throw "An alias node must not specify any properties"
      let (name, after) := readName rest
      if name.isEmpty then throw "Alias cannot be an empty string"
      pure { node := .alias name, jsonLike := false, rest := after }
    | cs@('"' :: _) | cs@('\'' :: _) => do
      match ← readQuoted cs with
      | some (style, text, after) => pure { node := .scalar props style text, jsonLike := true, rest := after }
      | none => throw "Missing closing quote"
    | [] => pure { node := Node.empty props, jsonLike := false, rest := [] }
    | c :: rest =>
      if c == ',' || c == ']' || c == '\x7d' || (c == ':' && endsIndicator true rest) then
        pure { node := Node.empty props, jsonLike := false, rest := c :: rest }
      else if badPlainStart c then throw ("Plain value cannot start with " ++ String.ofList [c])
      else if (c == '-' || c == '?') && endsIndicator true rest then
        throw ("Unexpected " ++ String.ofList [c] ++ " in flow collection")
      else
        let (raw, after) := readFlowPlain (c :: rest) [] []
        pure { node := .scalar props .plain (String.ofList (foldLines raw)), jsonLike := false, rest := after }

/-- Read the value after a `:` in flow; nothing there is the empty node. -/
def flowValue : Nat → List Char → Except String FlowRead
  | 0, _ => .error "Flow collection nested too deeply"
  | fuel + 1, cs => do
    let r ← skipFlowSpace cs true
    match r with
    | ',' :: _ | ']' :: _ | '\x7d' :: _ | [] => pure { node := Node.empty, jsonLike := false, rest := r }
    | _ => flowNode fuel r

/-- Read one entry of a flow collection: a key with its value when it is a pair
(`?` key, `:` value, or a node followed by `:`), or a single node. -/
def flowEntry : Nat → List Char → Except String (Node × Option Node × List Char)
  | 0, _ => .error "Flow collection nested too deeply"
  | fuel + 1, cs => do
    if atIndicator true '?' cs then
      let r ← skipFlowSpace (cs.drop 1) true
      let key ← if atIndicator true ':' r then pure { node := Node.empty, jsonLike := false, rest := r }
        else flowNode fuel r
      let r2 ← skipFlowSpace key.rest true
      match r2 with
      | ':' :: after =>
        if key.jsonLike || endsIndicator true after then
          let v ← flowValue fuel after
          pure (key.node, some v.node, v.rest)
        else pure (key.node, some Node.empty, r2)
      | _ => pure (key.node, some Node.empty, r2)
    else if atIndicator true ':' cs then
      let v ← flowValue fuel (cs.drop 1)
      pure (Node.empty, some v.node, v.rest)
    else
      let item ← flowNode fuel cs
      if item.node.props.isEmpty then
        match item.node, item.rest with
        | .scalar _ .plain "", c :: _ =>
          if c == ',' || c == ']' || c == '\x7d' then throw ("Unexpected " ++ String.ofList [c] ++ " in flow collection")
        | _, _ => pure ()
      let r2 ← skipFlowSpace item.rest true
      match r2 with
      | ':' :: after =>
        if item.jsonLike || endsIndicator true after then
          let v ← flowValue fuel after
          pure (item.node, some v.node, v.rest)
        else pure (item.node, none, r2)
      | _ => pure (item.node, none, r2)

/-- Read the items of a flow sequence after its `[`. -/
def flowItems : Nat → List Char → List Node → Except String (Node × List Char)
  | 0, _, _ => .error "Flow collection nested too deeply"
  | fuel + 1, cs, acc => do
    let r ← skipFlowSpace cs false
    match r with
    | ']' :: rest => pure (.sequence {} acc.reverse, rest)
    | [] => throw "Expected flow sequence to end with ]"
    | _ =>
      let (key, value, after) ← flowEntry fuel r
      let item := match value with
        | some v => Node.mapping {} [(key, v)]
        | none => key
      let r2 ← skipFlowSpace after true
      match r2 with
      | ',' :: rest => flowItems fuel rest (item :: acc)
      | ']' :: rest => pure (.sequence {} (item :: acc).reverse, rest)
      | _ => throw "Expected , or ] after a flow sequence item"

/-- Read the entries of a flow mapping after its opening brace. -/
def flowEntries : Nat → List Char → List (Node × Node) → Except String (Node × List Char)
  | 0, _, _ => .error "Flow collection nested too deeply"
  | fuel + 1, cs, acc => do
    let r ← skipFlowSpace cs false
    match r with
    | '\x7d' :: rest => pure (.mapping {} acc.reverse, rest)
    | [] => throw "Expected flow map to end with \x7d"
    | _ =>
      let (key, value, after) ← flowEntry fuel r
      let entry := (key, value.getD Node.empty)
      let r2 ← skipFlowSpace after true
      match r2 with
      | ',' :: rest => flowEntries fuel rest (entry :: acc)
      | '\x7d' :: rest => pure (.mapping {} (entry :: acc).reverse, rest)
      | _ => throw "Expected , or \x7d after a flow map entry"

end

/-- Read a flow node from a text, with fuel enough for its length. -/
def readFlowNode (cs : List Char) : Except String FlowRead :=
  flowNode (4 * cs.length + 8) cs

end ModelTables.Yaml
