import ModelTables.Yaml.Block
import ModelTables.Yaml.Schema
import ModelTables.Text.Quoted

/-! # Composing a document

`compose` turns the node tree of a document into a value, in document order:

* a scalar takes its value from its tag and text (`resolveScalar`);
* a sequence becomes an array (under `!!pairs`, each entry becomes a
  one-member object; under `!!omap` it becomes an ordered map, which has no
  members of its own);
* a mapping under `!!set` (whose values must all be null) becomes a set, which
  has no members of its own;
* any other mapping becomes an object: each key becomes a member name (null is the
  empty name, numbers and booleans their text, a collection or date its flow
  text), a later key with an equal name replaces the value in place, and two
  scalar keys with the same value (by strict equality: `1` and `1.0` are equal,
  `true` and `'true'` are not, NaN equals nothing) make the document invalid;
* an alias stands for the value of the last node before it with its anchor.

Aliases are counted: when the uses of an anchor times the number of values an
alias to it brings in exceed 100, the document is refused, so a document cannot
grow exponentially through aliases.  Under YAML 1.1 a plain `<<` key merges the
members of the mapping (or mappings) it names into its mapping, without
replacing members already there.
-/

namespace ModelTables.Yaml

/-- An anchored node seen so far: its name and value, what an alias to it brings
in (whether it holds a scalar, and the anchors it aliases), and how often it
has been aliased with the weight computed at its first use. -/
structure AnchorEntry where
  name : String
  value : Value
  hasScalar : Bool
  aliases : List Nat
  uses : Nat := 0
  weight : Nat := 0
  deriving Inhabited

/-- The state of a composition: the anchors seen so far, in order. -/
structure ComposeState where
  anchors : Array AnchorEntry := #[]
  deriving Inhabited

/-- Computations of a composition. -/
abbrev ComposeM := StateT ComposeState (Except String)

/-- A composed node: its value, the value it compares by as a mapping key when it
is a scalar, and what an alias to it would bring in. -/
structure Composed where
  value : Value
  identity : Option Value := none
  hasScalar : Bool := true
  aliases : List Nat := []
  deriving Inhabited

/-- The most aliases an anchor may bring in. -/
def maxAliasCount : Nat := 100

/-- Whether two scalar values are strictly equal. -/
def strictEq : Value → Value → Bool
  | .null, .null => true
  | .bool a, .bool b => a == b
  | .number a, .number b => a == b
  | .string a, .string b => a == b
  | _, _ => false

/-- The text of a date as a key: its ISO text without a zero time of day. -/
def dateKeyText (time : Option Int) : String :=
  match time with
  | none => "null"
  | some t =>
    let iso := Calendar.isoText t
    if iso.endsWith "T00:00:00.000Z" then (iso.dropEnd 14).toString
    else if iso.endsWith ".000Z" then (iso.dropEnd 5).toString
    else iso

/-- The flow text of a node used as a key whose value is no scalar. -/
def nodeText : Nat → Node → String
  | 0, _ => ""
  | fuel + 1, node =>
    let props (p : Props) : String :=
      let parts := (p.anchor.map ("&" ++ ·)).toList ++ p.tag.toList
      if parts.isEmpty then "" else " ".intercalate parts ++ " "
    match node with
    | .alias name => "*" ++ name
    | .scalar p style text =>
      let body := match style with
        | .doubleQuoted => Text.quote text
        | .singleQuoted => "'" ++ text.replace "'" "''" ++ "'"
        | _ => text
      props p ++ body
    | .sequence p items =>
      props p ++ (if items.isEmpty then "[]"
        else "[ " ++ ", ".intercalate (items.map (nodeText fuel)) ++ " ]")
    | .mapping p entries =>
      props p ++ (if entries.isEmpty then "\x7b\x7d"
        else "\x7b " ++ ", ".intercalate (entries.map fun (k, v) =>
          nodeText fuel k ++ ": " ++ nodeText fuel v) ++ " \x7d")

/-- The member name of a key. -/
def keyName (key : Node) (v : Value) : String :=
  match v with
  | .null => ""
  | .bool b => if b then "true" else "false"
  | .number x => Decimal.numberText x
  | .string s => s
  | .date t =>
    match key with
    | .scalar p _ _ =>
      let shown := match p.tag with
        | some tag => tag ++ " "
        | none => ""
      shown ++ dateKeyText t
    | _ => dateKeyText t
  | _ => nodeText 64 key

/-- Find the last anchor with a name. -/
def findAnchor (anchors : Array AnchorEntry) (name : String) : Option Nat :=
  (anchors.zipIdx.toList.filter (·.1.name == name)).getLast?.map (·.2)

/-- What an alias to an anchor brings in now: one for a scalar anywhere in it,
and each anchor it aliases by its uses times its weight. -/
def aliasWeight (anchors : Array AnchorEntry) (entry : AnchorEntry) : Nat :=
  entry.aliases.foldl (fun acc i =>
    match anchors[i]? with
    | some a => max acc (a.uses * a.weight)
    | none => acc) (if entry.hasScalar then 1 else 0)

/-- Resolve an alias: count the use and give the anchored value. -/
def resolveAlias (name : String) : ComposeM Composed := do
  let st ← get
  match findAnchor st.anchors name with
  | none => throw ("Unresolved alias (the anchor must be set before the alias): " ++ name)
  | some i =>
    let entry := st.anchors[i]!
    let weight := if entry.weight == 0 then aliasWeight st.anchors entry else entry.weight
    let entry := { entry with uses := entry.uses + 1, weight }
    set { st with anchors := st.anchors.set! i entry }
    if entry.uses * entry.weight > maxAliasCount then
      throw "Excessive alias count indicates a resource exhaustion attack"
    pure { value := entry.value, hasScalar := false, aliases := [i] }

/-- Record an anchor for a composed node. -/
def recordAnchor (props : Props) (c : Composed) : ComposeM Unit :=
  match props.anchor with
  | some name =>
    let entry : AnchorEntry := { name, value := c.value, hasScalar := c.hasScalar, aliases := c.aliases }
    modify fun st => { st with anchors := st.anchors.push entry }
  | none => pure ()

/-- Whether a node is a null value written without a tag. -/
def isNullNode : Node → Bool
  | .scalar p .plain text => p.tag.isNone && isNullText text.toList
  | _ => false

/-- Whether two of the scalar key identities are strictly equal. -/
def hasDuplicate : List (Option Value) → Bool
  | [] => false
  | some x :: rest => rest.any (fun y => match y with
      | some y => strictEq x y
      | none => false) || hasDuplicate rest
  | none :: rest => hasDuplicate rest

/-- Whether a key is a merge key: a plain `<<` without a tag, under YAML 1.1. -/
def isMergeKey (d : Directives) : Node → Bool
  | .scalar p .plain "<<" => d.version == .v1_1 && (p.tag.isNone || p.tag == some "!!merge")
  | _ => false

/-- Add the members of a merged mapping that the mapping does not have yet. -/
def mergeInto (fields : Fields) (source : Value) : Except String Fields :=
  match source with
  | .object members => .ok (members.foldl (fun acc (k, v) =>
      if Fields.contains acc k then acc else Fields.set acc k v) fields)
  | _ => .error "Merge sources must be maps or map aliases"

mutual

/-- Compose a node. -/
def compose (d : Directives) : Nat → Node → ComposeM Composed
  | 0, _ => throw "Document nested too deeply"
  | fuel + 1, node =>
    match node with
    | .alias name => resolveAlias name
    | .scalar props style text => do
      let tag ← match props.tag with
        | some t => (d.tagName t).map some
        | none => pure none
      let value ← resolveScalar d.version tag style text
      let identity := match value with
        | .date _ => none
        | v => some v
      let c : Composed := { value, identity }
      recordAnchor props c
      pure c
    | .sequence props items => do
      let tag ← match props.tag with
        | some t => (d.tagName t).map some
        | none => pure none
      let c : Composed ← if tag == some (yamlTag "pairs") || tag == some (yamlTag "omap") then do
          let (values, keys, hasScalar, aliases) ← composePairs d fuel items
          if tag == some (yamlTag "omap") then
            if hasDuplicate keys then throw "Ordered maps must not include duplicate keys"
            pure { value := .object [], hasScalar, aliases }
          else pure { value := .array values, hasScalar, aliases }
        else do
          let (values, hasScalar, aliases) ← composeItems d fuel items
          pure { value := .array values, hasScalar, aliases }
      recordAnchor props c
      pure c
    | .mapping props entries => do
      let tag ← match props.tag with
        | some t => (d.tagName t).map some
        | none => pure none
      let (fields, hasScalar, aliases) ← composeEntries d fuel entries [] [] false []
      let isSet := tag == some (yamlTag "set")
      if isSet && !entries.all (fun e => isNullNode e.2) then
        throw "Set items must all have null values"
      let c : Composed := { value := .object (if isSet then [] else fields), hasScalar, aliases }
      recordAnchor props c
      pure c

/-- Compose the items of a sequence of pairs: a mapping item must hold one
entry, and any other item is a key with a null value.  Each pair becomes an
object with one member; the key identities come along. -/
def composePairs (d : Directives) : Nat → List Node →
    ComposeM (List Value × List (Option Value) × Bool × List Nat)
  | 0, _ => throw "Document nested too deeply"
  | _ + 1, [] => pure ([], [], false, [])
  | fuel + 1, item :: rest => do
    let (key, value) ← match item with
      | .mapping _ [(k, v)] => pure (k, v)
      | .mapping _ [] => pure (Node.empty, Node.empty)
      | .mapping _ _ => throw "Each pair must have its own sequence indicator"
      | other => pure (other, Node.empty)
    let k ← compose d fuel key
    let v ← compose d fuel value
    let (values, keys, hasScalar, aliases) ← composePairs d fuel rest
    pure (.object [(keyName key k.value, v.value)] :: values, k.identity :: keys,
      k.hasScalar || v.hasScalar || hasScalar, k.aliases ++ v.aliases ++ aliases)

/-- Compose the items of a sequence. -/
def composeItems (d : Directives) : Nat → List Node → ComposeM (List Value × Bool × List Nat)
  | 0, _ => throw "Document nested too deeply"
  | _ + 1, [] => pure ([], false, [])
  | fuel + 1, item :: rest => do
    let c ← compose d fuel item
    let (values, hasScalar, aliases) ← composeItems d fuel rest
    pure (c.value :: values, c.hasScalar || hasScalar, c.aliases ++ aliases)

/-- Compose the entries of a mapping, with the members so far, the key
identities seen and what the entries bring in. -/
def composeEntries (d : Directives) : Nat → List (Node × Node) → Fields → List Value → Bool →
    List Nat → ComposeM (Fields × Bool × List Nat)
  | 0, _, _, _, _, _ => throw "Document nested too deeply"
  | _ + 1, [], fields, _, hasScalar, aliases => pure (fields, hasScalar, aliases)
  | fuel + 1, (key, value) :: rest, fields, seen, hasScalar, aliases => do
    if isMergeKey d key then
      let source ← match value with
        | .alias name => do
          match findAnchor (← get).anchors name with
          | some i => pure ((← get).anchors[i]!.value)
          | none => throw ("Unresolved alias (the anchor must be set before the alias): " ++ name)
        | v => pure (← compose d fuel v).value
      let fields ← match source with
        | .array sources => sources.foldlM (fun acc s => mergeInto acc s) fields
        | s => mergeInto fields s
      composeEntries d fuel rest fields seen true aliases
    else
      let k ← compose d fuel key
      if let some x := k.identity then
        if seen.any (strictEq x) then throw "Map keys must be unique"
      let v ← compose d fuel value
      let fields := Fields.set fields (keyName key k.value) v.value
      let seen := match k.identity with
        | some x => x :: seen
        | none => seen
      composeEntries d fuel rest fields seen (hasScalar || k.hasScalar || v.hasScalar)
        (aliases ++ k.aliases ++ v.aliases)

end

/-- Compose a document's root node. -/
def composeDocument (d : Directives) (fuel : Nat) (root : Node) : Except String Value :=
  (compose d fuel root |>.run' {}).map (·.value)

end ModelTables.Yaml
