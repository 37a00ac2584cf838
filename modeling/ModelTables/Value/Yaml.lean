import ModelTables.Yaml.Compose

/-! # Reading YAML documents

`Value.parseYaml?` reads a YAML stream holding one document into a value.

A stream may start with a byte order mark.  Before the document come its
directives (`%YAML 1.1` or `%YAML 1.2` for the version, `%TAG` for a tag handle;
other directives are ignored), and when there are any the document must start
with `---`.  The document may start with `---`, whose line may hold the start
of the root node, and end with `...`; a second document is refused.  An empty
stream or document is null.

The root node is read by the block rules (`Yaml.Block`) and composed
(`Yaml.Compose`) with the core schema, or the YAML 1.1 schema when a `%YAML 1.1`
directive asks for it.
-/

namespace ModelTables

namespace Yaml

/-- The text of a directive line without a comment after a blank. -/
def directiveText (cs : List Char) : List Char :=
  let rec go : List Char → Bool → List Char → List Char
    | [], _, acc => acc.reverse
    | c :: rest, afterBlank, acc =>
      if c == '#' && afterBlank then acc.reverse else go rest (isBlankChar c) (c :: acc)
  trimEnd (go cs false [])

/-- The words of a text separated by blanks. -/
def words (cs : List Char) : List String :=
  ((String.ofList cs).split isBlankChar).toList.map (·.toString) |>.filter (!·.isEmpty)

/-- Whether a text is digits, a point and digits. -/
def isVersionText (s : String) : Bool :=
  match s.splitOn "." with
  | [a, b] => allDigits a.toList && allDigits b.toList
  | _ => false

/-- Take one directive line (after its `%`) into the directives. -/
def addDirective (d : Directives) (cs : List Char) : Except String Directives :=
  match words (directiveText cs) with
  | ["YAML", v] =>
    if v == "1.1" then .ok { d with version := .v1_1 }
    else if v == "1.2" then .ok { d with version := .v1_2 }
    else if isVersionText v then .ok d
    else .error ("Unsupported YAML version " ++ v)
  | "YAML" :: _ => .error "YAML directives must have a single parameter"
  | ["TAG", handle, pre] =>
    .ok { d with handles := (handle, pre) :: d.handles.filter (·.1 != handle) }
  | "TAG" :: _ => .error "%TAG directive should contain exactly two parts"
  | _ => .ok d

/-- Read the directives before a document: the directives, whether there were
any, and the lines after them. -/
def readDirectives : List Line → Directives → Bool → Except String (Directives × Bool × List Line)
  | [], d, seen => .ok (d, seen, [])
  | l :: rest, d, seen =>
    if l.isEmpty then readDirectives rest d seen
    else match l.indent, l.text with
      | 0, '%' :: text => do readDirectives rest (← addDirective d text) true
      | _, _ => .ok (d, seen, l :: rest)

/-- Whether a line is the marker `---`. -/
def isDocumentStart (l : Line) : Bool := l.isMarker && l.text.head? == some '-'

/-- Whether a line is the marker `...`. -/
def isDocumentEnd (l : Line) : Bool := l.isMarker && l.text.head? == some '.'

end Yaml

open Yaml in
/-- Read a YAML document. -/
def Value.parseYaml? (content : String) : Except String Value := do
  let cs := content.toList
  let cs := if cs.head? == some (Char.ofNat 0xFEFF) then cs.drop 1 else cs
  let lines := toLines cs
  let (d, hasDirectives, lines) ← readDirectives lines {} false
  let fuel := 2 * (lines.length + cs.length) + 8
  let (root, rest) ← match lines with
    | l :: more =>
      if isDocumentStart l then
        let after := l.text.drop 3
        let pad := (after.takeWhile isBlankChar).length
        let body := after.drop pad
        if isRestEmpty body then blockNode fuel (-1) false {} more
        else lineNode fuel (-1) false {} (3 + pad) body more
      else if hasDirectives then throw "Missing directives-end indicator line"
      else blockNode fuel (-1) false {} lines
    | [] =>
      if hasDirectives then throw "Missing directives-end indicator line"
      else pure (Node.empty, [])
  match skipEmpty rest with
  | [] => pure ()
  | l :: more =>
    if isDocumentEnd l then
      if !isRestEmpty (l.text.drop 3) then throw "Unexpected content after the document end marker"
      if !(skipEmpty more).isEmpty then
        throw "Source contains multiple documents; please use YAML.parseAllDocuments()"
    else if isDocumentStart l then
      throw "Source contains multiple documents; please use YAML.parseAllDocuments()"
    else throw "Unexpected content after the document"
  composeDocument d fuel root

end ModelTables
