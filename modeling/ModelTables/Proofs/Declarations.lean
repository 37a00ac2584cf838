import ModelTables.Proofs.Lines
import ModelTables.Proofs.Bindings
import Mathlib.Data.List.Forall2

/-! # Declarations read back

`Code.readModule` reads the top-level declarations of a module line by line, the
way a test reads a generated module: `export const C = pgTable(T, {` opens a table,
whose property lines `K: …` give its keys up to a line that starts with a brace;
`export const CMeta = {` opens a metadata block, of which the `table:` entry and the
keys of the `relations:` entry are kept.  Keys written as identifiers are read, and
comment lines are passed over.

Main statement: `generated_modules_read_back`.  When the names the text renderer
writes unquoted are identifiers, every generated module reads back as its models in
order: the table and the block of each class name, the quoted table name of its
planned model, and keys that are exactly its field names.  It rests on three steps:
rendering a field keeps the parts `Readable` (`addField_readable`); the lines of a
declaration read as its table and its block (`declareModel_readsAs`); and the
sections of a module read one after another (`readModule_renderAppModule`).

A foreign key's column refers to the referenced column as `Target.key` with the key
written as it is, so a referenced key that is not an identifier leaves the module
unparseable: `reference_to_numeric_key_unquoted`.
-/

namespace ModelTables

namespace Code

/-! ## Reading a module -/

/-- The rest of a line after a prefix, if it starts with it. -/
def dropPrefix? : List Char → List Char → Option (List Char)
  | [], rest => some rest
  | p :: ps, c :: rest => if p = c then dropPrefix? ps rest else none
  | _ :: _, [] => none

/-- The line before a suffix, if it ends with it. -/
def dropSuffix? (suffix line : List Char) : Option (List Char) :=
  (dropPrefix? suffix.reverse line.reverse).map List.reverse

@[simp] theorem dropPrefix?_append (p rest : List Char) : dropPrefix? p (p ++ rest) = some rest := by
  induction p with
  | nil => rfl
  | cons c ps ih => simp [dropPrefix?, ih]

@[simp] theorem dropSuffix?_append (s line : List Char) : dropSuffix? s (line ++ s) = some line := by
  simp [dropSuffix?]

/-- A top-level declaration read back from a module. -/
inductive Declared where
  /-- `export const N = pgTable(T, {`, with the keys of the object that follows. -/
  | table (name tableName : String) (keys : List String)
  /-- `export const N = {`, with its `table` entry and the keys of its `relations` entry. -/
  | block (name : String) (tableName : Option String) (relations : List String)
  deriving DecidableEq

/-- Where the reader of a module is. -/
inductive ReadState where
  | top
  | table (name tableName : String) (keys : List String)
  | block (name : String) (tableName : Option String) (relations : List String)
  | relations (name : String) (tableName : Option String) (relations : List String)
  deriving DecidableEq

/-- The name and first argument of `export const N = pgTable(T, {`. -/
def tableOpening? (line : List Char) : Option (String × String) := do
  let rest ← dropPrefix? "export const ".toList line
  let arg ← dropPrefix? " = pgTable(".toList (rest.dropWhile isIdentChar)
  let tableName ← dropSuffix? ", \x7b".toList arg
  pure (String.ofList (rest.takeWhile isIdentChar), String.ofList tableName)

/-- The name of `export const N = {`. -/
def blockOpening? (line : List Char) : Option String := do
  let rest ← dropPrefix? "export const ".toList line
  if rest.dropWhile isIdentChar = " = \x7b".toList then some (String.ofList (rest.takeWhile isIdentChar))
  else none

/-- The key of a property line `K: …` at an indent, when the key is written as an
identifier. -/
def propertyName? (indent line : List Char) : Option String := do
  let rest ← dropPrefix? indent line
  if rest.takeWhile isIdentChar ≠ [] ∧ (rest.dropWhile isIdentChar).head? = some ':' then
    some (String.ofList (rest.takeWhile isIdentChar))
  else none

/-- Read one line. -/
def readLine : ReadState × List Declared → List Char → ReadState × List Declared
  | (.top, out), line =>
    match tableOpening? line with
    | some (name, tableName) => (.table name tableName [], out)
    | none =>
      match blockOpening? line with
      | some name => (.block name none [], out)
      | none => (.top, out)
  | (.table name tableName keys, out), line =>
    if line.head? = some '\x7d' then (.top, out ++ [.table name tableName keys])
    else
      match propertyName? "  ".toList line with
      | some key => (.table name tableName (keys ++ [key]), out)
      | none => (.table name tableName keys, out)
  | (.block name tableName relations, out), line =>
    if line.head? = some '\x7d' then (.top, out ++ [.block name tableName relations])
    else if line = "  relations: \x7b".toList then (.relations name tableName relations, out)
    else
      match (dropPrefix? "  table: ".toList line).bind (dropSuffix? ",".toList) with
      | some entry => (.block name (some (String.ofList entry)) relations, out)
      | none => (.block name tableName relations, out)
  | (.relations name tableName relations, out), line =>
    if line = "  \x7d,".toList then (.block name tableName relations, out)
    else
      match propertyName? "    ".toList line with
      | some key => (.relations name tableName (relations ++ [key]), out)
      | none => (.relations name tableName relations, out)

/-- The declarations of a module text, read line by line. -/
def readModule (text : String) : List Declared :=
  ((text.toList.splitOn '\n').foldl readLine (.top, [])).2

/-! ## Reading one line -/

theorem identChars_of_isIdentifier {name : String} (identifier : isIdentifier name = true) :
    name.toList ≠ [] ∧ ∀ c ∈ name.toList, isIdentChar c = true := by
  unfold isIdentifier at identifier
  cases chars : name.toList with
  | nil =>
    rw [chars] at identifier
    cases identifier
  | cons c rest =>
    rw [chars] at identifier
    simp only [Bool.and_eq_true, List.all_eq_true] at identifier
    refine ⟨List.cons_ne_nil _ _, fun d member => ?_⟩
    rcases List.mem_cons.mp member with rfl | later
    · exact identifier.1.1
    · exact identifier.2 d later

/-- Identifier characters followed by a character that cannot continue them are
read off whole. -/
theorem span_identChars {name : List Char} (chars : ∀ c ∈ name, isIdentChar c = true) {c : Char}
    (stop : isIdentChar c = false) (rest : List Char) :
    (name ++ c :: rest).takeWhile isIdentChar = name ∧ (name ++ c :: rest).dropWhile isIdentChar = c :: rest := by
  rw [List.takeWhile_append_of_pos chars, List.dropWhile_append_of_pos chars,
    List.takeWhile_cons_of_neg (by simp [stop]), List.dropWhile_cons_of_neg (by simp [stop]), List.append_nil]
  exact ⟨rfl, rfl⟩

theorem span_identifier {name : String} (identifier : isIdentifier name = true) {c : Char}
    (stop : isIdentChar c = false) (rest : List Char) :
    (name.toList ++ c :: rest).takeWhile isIdentChar = name.toList ∧
      (name.toList ++ c :: rest).dropWhile isIdentChar = c :: rest :=
  span_identChars (identChars_of_isIdentifier identifier).2 stop rest

theorem tableOpening?_declaration {className : String} (identifier : isIdentifier className = true)
    (tableName : String) :
    tableOpening? ("export const " ++ className ++ " = pgTable(" ++ tableName ++ ", \x7b").toList =
      some (className, tableName) := by
  -- the class name stops at the blank before the call
  have taken : (className.toList ++ (" = pgTable(".toList ++ (tableName.toList ++ ", \x7b".toList))).takeWhile
      isIdentChar = className.toList :=
    (span_identifier identifier (c := ' ') (by decide) ("= pgTable(".toList ++ (tableName.toList ++ ", \x7b".toList))).1
  have dropped : (className.toList ++ (" = pgTable(".toList ++ (tableName.toList ++ ", \x7b".toList))).dropWhile
      isIdentChar = " = pgTable(".toList ++ (tableName.toList ++ ", \x7b".toList) :=
    (span_identifier identifier (c := ' ') (by decide) ("= pgTable(".toList ++ (tableName.toList ++ ", \x7b".toList))).2
  simp only [tableOpening?, String.toList_append, List.append_assoc, dropPrefix?_append, taken, dropped,
    Option.bind_eq_bind, Option.bind_some, dropSuffix?_append, String.ofList_toList]
  rfl

/-- The name of a metadata block is made of identifier characters. -/
theorem identChars_meta {className : String} (identifier : isIdentifier className = true) :
    ∀ c ∈ className.toList ++ "Meta".toList, isIdentChar c = true := by
  intro c member
  rcases List.mem_append.mp member with own | suffix
  · exact (identChars_of_isIdentifier identifier).2 c own
  · have letters : ∀ d ∈ "Meta".toList, isIdentChar d = true := by simp [isIdentChar]
    exact letters c suffix

/-- The opening line of a metadata block, split after its keyword and after its name. -/
theorem metaOpening_toList (className : String) :
    ("export const " ++ className ++ "Meta = \x7b").toList =
      "export const ".toList ++ ((className.toList ++ "Meta".toList) ++ ' ' :: "= \x7b".toList) := by
  simp only [String.toList_append, List.append_assoc]
  rfl

theorem blockOpening?_declaration {className : String} (identifier : isIdentifier className = true) :
    blockOpening? ("export const " ++ className ++ "Meta = \x7b").toList = some (className ++ "Meta") := by
  have chars := identChars_meta identifier
  obtain ⟨taken, dropped⟩ := span_identChars chars (c := ' ') (by decide) ("= \x7b".toList)
  rw [metaOpening_toList]
  simp only [blockOpening?, dropPrefix?_append, Option.bind_eq_bind, Option.bind_some, taken, dropped]
  simp

theorem tableOpening?_block {className : String} (identifier : isIdentifier className = true) :
    tableOpening? ("export const " ++ className ++ "Meta = \x7b").toList = none := by
  have chars := identChars_meta identifier
  obtain ⟨-, dropped⟩ := span_identChars chars (c := ' ') (by decide) ("= \x7b".toList)
  rw [metaOpening_toList]
  simp only [tableOpening?, dropPrefix?_append, Option.bind_eq_bind, Option.bind_some, dropped]
  rfl

/-- A line that does not start a declaration is passed over at the top level. -/
theorem readLine_top_other {line : List Char} (other : line.head? ≠ some 'e') (out : List Declared) :
    readLine (.top, out) line = (.top, out) := by
  have unopened : dropPrefix? "export const ".toList line = none := by
    cases line with
    | nil => rfl
    | cons c rest =>
      have notE : c ≠ 'e' := fun same => other (by rw [same]; rfl)
      simp [dropPrefix?, Ne.symm notE]
  simp only [readLine, tableOpening?, blockOpening?, unopened, Option.bind_eq_bind, Option.bind_none]

theorem readLine_top_table {className : String} (identifier : isIdentifier className = true)
    (tableName : String) (out : List Declared) :
    readLine (.top, out) ("export const " ++ className ++ " = pgTable(" ++ tableName ++ ", \x7b").toList =
      (.table className tableName [], out) := by
  simp only [readLine, tableOpening?_declaration identifier]

theorem readLine_top_block {className : String} (identifier : isIdentifier className = true)
    (out : List Declared) :
    readLine (.top, out) ("export const " ++ className ++ "Meta = \x7b").toList =
      (.block (className ++ "Meta") none [], out) := by
  simp only [readLine, tableOpening?_block identifier, blockOpening?_declaration identifier]

theorem propertyName?_line (indent : List Char) {key : String} (identifier : isIdentifier key = true)
    (rest : List Char) : propertyName? indent (indent ++ key.toList ++ ':' :: rest) = some key := by
  obtain ⟨taken, dropped⟩ := span_identifier identifier (c := ':') (by decide) rest
  have named := (identChars_of_isIdentifier identifier).1
  simp only [propertyName?, List.append_assoc, dropPrefix?_append, Option.bind_eq_bind, Option.bind_some, taken,
    dropped, List.head?_cons, String.ofList_toList]
  simp [named]

/-- The line of a property whose key is an identifier. -/
theorem property_toList (indent : String) (key rest : String) :
    (indent ++ key ++ ": " ++ rest).toList = indent.toList ++ key.toList ++ ':' :: (" ".toList ++ rest.toList) := by
  simp only [String.toList_append, List.append_assoc]
  rfl

/-- In a table, a property line adds its key. -/
theorem readLine_table_property {name tableName : String} {keys : List String} {out : List Declared}
    {key : String} (identifier : isIdentifier key = true) (rest : String) :
    readLine (.table name tableName keys, out) ("  " ++ key ++ ": " ++ rest).toList =
      (.table name tableName (keys ++ [key]), out) := by
  rw [property_toList]
  have opened : ("  ".toList ++ key.toList ++ ':' :: (" ".toList ++ rest.toList)).head? = some ' ' := rfl
  simp only [readLine, opened, propertyName?_line _ identifier]
  simp

/-- In a table, a comment line is passed over. -/
theorem readLine_table_comment {name tableName : String} {keys : List String} {out : List Declared}
    (text : List Char) :
    readLine (.table name tableName keys, out) ("  ".toList ++ '/' :: text) = (.table name tableName keys, out) := by
  have unnamed : propertyName? "  ".toList ("  ".toList ++ '/' :: text) = none := by
    simp only [propertyName?, dropPrefix?_append, Option.bind_eq_bind, Option.bind_some,
      List.takeWhile_cons_of_neg (show ¬ isIdentChar '/' = true by decide)]
    simp
  simp only [readLine, unnamed]
  simp

/-- A line that starts with a closing brace ends a table. -/
theorem readLine_table_close {name tableName : String} {keys : List String} {out : List Declared}
    {line : List Char} (closing : line.head? = some '\x7d') :
    readLine (.table name tableName keys, out) line = (.top, out ++ [.table name tableName keys]) := by
  simp [readLine, closing]

section Block

variable {name : String} {tableName : Option String} {relations : List String} {out : List Declared}

/-- In a metadata block, the table entry gives the table's name. -/
theorem readLine_block_table (table : String) :
    readLine (.block name tableName relations, out) ("  table: " ++ table ++ ",").toList =
      (.block name (some table) relations, out) := by
  have shaped : ("  table: " ++ table ++ ",").toList = "  table: ".toList ++ (table.toList ++ ",".toList) := by
    simp only [String.toList_append, List.append_assoc]
  have notRelations : "  table: ".toList ++ (table.toList ++ ",".toList) ≠ "  relations: \x7b".toList := by
    intro same
    have := congrArg (List.take 3) same
    simp at this
  rw [shaped]
  simp only [readLine, List.head?_append, notRelations, dropPrefix?_append, Option.bind_some, dropSuffix?_append,
    String.ofList_toList]
  simp

/-- In a metadata block, an indented entry other than the table and the opening of
the relations is passed over. -/
theorem readLine_block_other {c : Char} (rest : List Char) (notTable : c ≠ 't')
    (notRelations : ' ' :: ' ' :: c :: rest ≠ "  relations: \x7b".toList) :
    readLine (.block name tableName relations, out) (' ' :: ' ' :: c :: rest) =
      (.block name tableName relations, out) := by
  have untabled : dropPrefix? "  table: ".toList (' ' :: ' ' :: c :: rest) = none := by
    simp [dropPrefix?, Ne.symm notTable]
  simp only [readLine, notRelations, untabled]
  simp

theorem readLine_block_app (appName : String) :
    readLine (.block name tableName relations, out) ("  app: " ++ Text.quote appName ++ ",").toList =
      (.block name tableName relations, out) := by
  have shaped : ("  app: " ++ Text.quote appName ++ ",").toList =
      ' ' :: ' ' :: 'a' :: ("pp: ".toList ++ ((Text.quote appName).toList ++ ",".toList)) := by
    simp only [String.toList_append, List.append_assoc,
      show "  app: ".toList = ' ' :: ' ' :: 'a' :: "pp: ".toList by decide, List.cons_append]
  rw [shaped]
  exact readLine_block_other _ (by decide) (by simp)

theorem readLine_block_uniqueTogether (groupsText : String) :
    readLine (.block name tableName relations, out) ("  uniqueTogether: " ++ groupsText ++ ",").toList =
      (.block name tableName relations, out) := by
  have shaped : ("  uniqueTogether: " ++ groupsText ++ ",").toList =
      ' ' :: ' ' :: 'u' :: ("niqueTogether: ".toList ++ (groupsText.toList ++ ",".toList)) := by
    simp only [String.toList_append, List.append_assoc,
      show "  uniqueTogether: ".toList = ' ' :: ' ' :: 'u' :: "niqueTogether: ".toList by decide, List.cons_append]
  rw [shaped]
  exact readLine_block_other _ (by decide) (by simp)

theorem readLine_block_noRelations :
    readLine (.block name tableName relations, out) "  relations: \x7b\x7d,".toList =
      (.block name tableName relations, out) :=
  readLine_block_other _ (by decide) (by decide)

theorem readLine_block_relations :
    readLine (.block name tableName relations, out) "  relations: \x7b".toList =
      (.relations name tableName relations, out) := by
  simp [readLine]

theorem readLine_block_close {line : List Char} (closing : line.head? = some '\x7d') :
    readLine (.block name tableName relations, out) line = (.top, out ++ [.block name tableName relations]) := by
  simp [readLine, closing]

/-- In the relations of a block, a property line adds its key. -/
theorem readLine_relations_property {key : String} (identifier : isIdentifier key = true) (rest : String) :
    readLine (.relations name tableName relations, out) ("    " ++ key ++ ": " ++ rest).toList =
      (.relations name tableName (relations ++ [key]), out) := by
  rw [property_toList]
  have unclosed : "    ".toList ++ key.toList ++ ':' :: (" ".toList ++ rest.toList) ≠ "  \x7d,".toList := by
    intro same
    have := congrArg (List.take 3) same
    simp at this
  simp only [readLine, unclosed, propertyName?_line _ identifier]
  simp

theorem readLine_relations_close :
    readLine (.relations name tableName relations, out) "  \x7d,".toList = (.block name tableName relations, out) := by
  simp [readLine]

end Block

/-- The entries of a block's relations add their keys in order. -/
theorem readLines_relations (name : String) (tableName : Option String) (out : List Declared) :
    ∀ (rels : List (String × RelationDescriptor)) (keys : List String), (∀ r ∈ rels, isIdentifier r.1 = true) →
      ((rels.map fun (key, d) => "    " ++ propertyKey key ++ ": " ++ descriptorText d ++ ",").map
        String.toList).foldl readLine (.relations name tableName keys, out) =
        (.relations name tableName (keys ++ rels.map (·.1)), out)
  | [], keys, _ => by simp
  | (key, d) :: rest, keys, named => by
    have identifier : isIdentifier key = true := named (key, d) (List.mem_cons_self ..)
    have line : "    " ++ key ++ ": " ++ descriptorText d ++ "," = "    " ++ key ++ ": " ++ (descriptorText d ++ ",") :=
      String.append_assoc
    simp only [List.map_cons, List.foldl_cons]
    rw [propertyKey_of_isIdentifier identifier, line, readLine_relations_property identifier, readLines_relations name tableName out rest (keys ++ [key])
        fun r member => named r (List.mem_cons_of_mem _ member)]
    simp


/-! ## Rendered fields -/

/-- What rendering fields into parts keeps, so that the declaration reads back: its
lines stay lines, read inside a table they give the column keys, the relations are
named by identifiers, the column keys and relation names are the field names, and
every import names a one-line name. -/
structure SourceParts.Readable (parts : SourceParts) : Prop where
  lines : ∀ line ∈ parts.lines, OneLine line
  keys : ∀ name tableName keys out, (parts.lines.map String.toList).foldl readLine
    (.table name tableName keys, out) = (.table name tableName (keys ++ parts.columns), out)
  relations : ∀ r ∈ parts.relations, isIdentifier r.1 = true
  fieldNames : ∀ key, key ∈ parts.columns ∨ key ∈ parts.relations.map (·.1) ↔ key ∈ parts.fieldNames
  imports : ∀ i ∈ parts.imports, OneLine i.name

theorem SourceParts.readable_start : SourceParts.Readable { imports := [pgImport "pgTable"] } := by
  refine ⟨by simp, fun name tableName keys out => by simp, by simp, by simp, ?_⟩
  simp only [List.mem_singleton, forall_eq, pgImport]
  decide

theorem renderRelationField_described {info : FieldInfo} {targetClassName : String}
    {log after : List LogEntry} {d : RelationDescriptor} {source : Option FieldSource}
    (rendered : (renderRelationField info targetClassName).run.run log = (.ok (some (d, source)), after)) :
    info.describeRelation targetClassName = some d := by
  unfold renderRelationField at rendered
  split at rendered
  · obtain ⟨-, middle, -, rest⟩ := Run.run_bind_eq_ok rendered
    cases rest
  · next d' described =>
    split at rendered
    · cases rendered
      exact described
    · obtain ⟨base, middle, -, rest⟩ := Run.run_bind_eq_ok rendered
      cases rest
      exact described

/-- Lines that read as the columns `columns` inside a table, followed by a property
line, read as those columns and the property's key. -/
theorem readLines_property {lines : List String} {columns : List String}
    (read : ∀ name tableName keys out, (lines.map String.toList).foldl readLine
      (.table name tableName keys, out) = (.table name tableName (keys ++ columns), out))
    {key : String} (identifier : isIdentifier key = true) (rest : String) (name tableName : String)
    (keys : List String) (out : List Declared) :
    ((lines ++ ["  " ++ (key ++ (": " ++ rest))]).map String.toList).foldl readLine (.table name tableName keys, out) =
      (.table name tableName (keys ++ (columns ++ [key])), out) := by
  rw [List.map_append, List.foldl_append, read]
  simp only [List.map_cons, List.map_nil, List.foldl_cons, List.foldl_nil, ← String.append_assoc,
    readLine_table_property identifier, List.append_assoc]

/-- A comment line for a skipped field keeps the parts readable: a table passes over it. -/
theorem SourceParts.Readable.addComment {parts : SourceParts} (readable : parts.Readable) {name : String}
    (nameLine : OneLine name) :
    ({ parts with lines := parts.lines ++ ["  // Skipped unsupported field: " ++ name] } : SourceParts).Readable := by
  have comment : ("  // Skipped unsupported field: " ++ name).toList =
      "  ".toList ++ '/' :: ("/ Skipped unsupported field: ".toList ++ name.toList) := by
    simp only [String.toList_append]
    rfl
  refine ⟨?_, fun tableName dbTable keys out => ?_, readable.relations, readable.fieldNames, readable.imports⟩
  · simp only [List.mem_append, List.mem_singleton]
    rintro line (old | rfl)
    · exact readable.lines line old
    · exact oneLine_append.mpr ⟨by decide, nameLine⟩
  · rw [List.map_append, List.foldl_append, readable.keys]
    simp only [List.map_cons, List.map_nil, List.foldl_cons, List.foldl_nil, comment, readLine_table_comment]

/-- Recording a relation under an identifier keeps the parts readable. -/
theorem SourceParts.Readable.addRelation {parts : SourceParts} (readable : parts.Readable) {name : String}
    (identifier : isIdentifier name = true) (d : RelationDescriptor) :
    ({ parts with relations := parts.relations ++ [(name, d)], fieldNames := parts.fieldNames ++ [name] } :
      SourceParts).Readable := by
  refine ⟨readable.lines, readable.keys, ?_, fun key => ?_, readable.imports⟩
  · simp only [List.mem_append, List.mem_singleton]
    rintro r (old | rfl)
    · exact readable.relations r old
    · exact identifier
  · simp only [List.map_append, List.map_cons, List.map_nil, List.mem_append, List.mem_singleton]
    rw [← readable.fieldNames key, or_assoc]

/-- A property line `  K: …` for a column keyed by an identifier keeps the parts
readable, when its rest stays on one line, the field names gain at most the key, and
every new import names a one-line name. -/
theorem SourceParts.Readable.addProperty {parts parts' : SourceParts} (readable : parts.Readable)
    {name : String} (identifier : isIdentifier name = true) (rest : String) (restLine : OneLine rest)
    (lines : parts'.lines = parts.lines ++ ["  " ++ (propertyKey name ++ (": " ++ rest))])
    (columns : parts'.columns = parts.columns ++ [name]) (relations : parts'.relations = parts.relations)
    (fieldNames : ∀ key, key ∈ parts'.fieldNames ↔ key ∈ parts.fieldNames ∨ key = name)
    (imports : ∀ i ∈ parts'.imports, i ∈ parts.imports ∨ OneLine i.name) : parts'.Readable := by
  rw [propertyKey_of_isIdentifier identifier] at lines
  refine ⟨?_, fun tableName dbTable keys out => ?_, relations ▸ readable.relations, fun key => ?_,
    fun i member => ?_⟩
  · rw [lines]
    simp only [List.mem_append, List.mem_singleton]
    rintro line (old | rfl)
    · exact readable.lines line old
    · simp only [oneLine_append]
      exact ⟨by decide, oneLine_of_isIdentifier identifier, by decide, restLine⟩
  · rw [lines, columns]
    exact readLines_property readable.keys identifier rest tableName dbTable keys out
  · rw [columns, relations, fieldNames, List.mem_append, List.mem_singleton, ← readable.fieldNames key,
      or_right_comm]
  · rcases imports i member with old | new
    · exact readable.imports i old
    · exact new

theorem addField_readable {schema : Schema} {appLabel : String} {parts parts' : SourceParts}
    {plan : FieldPlan} {log after : List LogEntry} (readable : parts.Readable)
    (named : plan.info.namesIdentifiers = true)
    (classNamed : ∀ info target className, plan = .relation info target className → isIdentifier className = true)
    (added : (addField schema appLabel parts plan).run.run log = (.ok parts', after)) :
    parts'.Readable := by
  cases plan with
  | data info =>
    replace named : info.namesIdentifiers = true := named
    have identifier := FieldInfo.namesIdentifiers_name named
    have nameLine := oneLine_of_isIdentifier identifier
    unfold addField at added
    obtain ⟨source, middle, rendered, rest⟩ := Run.run_bind_eq_ok added
    rcases source with _ | source
    · cases rest
      exact readable.addComment nameLine
    · cases rest
      obtain ⟨expression, comments, imports⟩ := renderDataField_singleLine rendered nameLine
        (FieldInfo.namesIdentifiers_enumType named) (FieldInfo.namesIdentifiers_member named)
      -- the rest of the line is the expression, a comma and the field's comment, if any
      simp only [String.append_assoc]
      refine readable.addProperty identifier _ ?_ rfl rfl rfl (fun key => ?_) (fun i member => ?_)
      · simp only [oneLine_append]
        refine ⟨expression, by decide, ?_⟩
        split
        · next c commented => exact oneLine_append.mpr ⟨by decide, comments c commented⟩
        · decide
      · simp only [List.mem_append, List.mem_singleton]
      · exact (List.mem_append.mp member).imp id (imports i)
  | relation info target targetClassName =>
    replace named : info.namesIdentifiers = true := named
    have identifier := FieldInfo.namesIdentifiers_name named
    unfold addField at added
    obtain ⟨relation, middle, rendered, rest⟩ := Run.run_bind_eq_ok added
    rcases relation with _ | ⟨d, _ | source⟩
    · cases rest
      exact readable
    · -- a many-to-many field is a relation and no column
      cases rest
      exact readable.addRelation identifier d
    · cases rest
      have classIdentifier := classNamed info target targetClassName rfl
      have referenced : OneLine d.references := by
        rw [(FieldInfo.describeRelation_eq_some (renderRelationField_described rendered)).2.1]
        exact FieldInfo.namesIdentifiers_referenced named
      obtain ⟨expression, -, imports⟩ :=
        renderRelationField_singleLine rendered (oneLine_of_isIdentifier classIdentifier) referenced
      -- the field's name is already among the field names, as the name of its relation
      simp only [String.append_assoc]
      refine (readable.addRelation identifier d).addProperty identifier _
        (oneLine_append.mpr ⟨expression, by decide⟩) rfl rfl rfl (fun key => ?_) (fun i member => ?_)
      · simp only [List.mem_append, List.mem_singleton, or_self_right]
      · -- a target in another app is imported under its class name
        simp only [List.mem_append] at member
        rcases member with (old | new) | cross
        · exact .inl old
        · exact .inr (imports i new)
        · split at cross
          · rw [List.mem_singleton.mp cross]
            exact .inr (oneLine_of_isIdentifier classIdentifier)
          · cases cross

/-! ## One declaration -/

/-- A block's relations read as their keys. -/
theorem readLines_relationLines (name : String) (tableName : Option String) (out : List Declared)
    {relations : List (String × RelationDescriptor)} (named : ∀ r ∈ relations, isIdentifier r.1 = true) :
    ((relationLines relations).map String.toList).foldl readLine (.block name tableName [], out) =
      (.block name tableName (relations.map (·.1)), out) := by
  unfold relationLines
  split
  · next empty =>
    rw [List.isEmpty_iff.mp empty]
    simp only [List.map_cons, List.map_nil, List.foldl_cons, List.foldl_nil, readLine_block_noRelations]
  · simp only [List.map_append, List.foldl_append, List.map_cons, List.map_nil, List.foldl_cons, List.foldl_nil]
    rw [readLine_block_relations, readLines_relations name tableName out relations [] named,
      readLine_relations_close, List.nil_append]

/-- Lines that, followed by a blank line, read from the top level back to it and
declare `declared` on the way. -/
def ReadsAs (lines : List String) (declared : List Declared) : Prop :=
  ∀ out, ((lines ++ [""]).map String.toList).foldl readLine (.top, out) = (.top, out ++ declared)

/-- What is read back of one model's declaration. -/
structure ModelRead where
  className : String
  tableName : String
  columns : List String
  relations : List String
  deriving DecidableEq

/-- The table and the metadata block a model's declaration reads as. -/
def ModelRead.declarations (read : ModelRead) : List Declared :=
  [.table read.className read.tableName read.columns,
    .block (read.className ++ "Meta") (some read.tableName) read.relations]

/-- What a model's declaration from `parts` should read as. -/
def SourceParts.read (model : ModelPlan) (parts : SourceParts) : ModelRead :=
  { className := model.className, tableName := Text.quote model.info.dbTable, columns := parts.columns
    relations := parts.relations.map (·.1) }

theorem declareModel_readsAs (appName : String) (model : ModelPlan) {parts : SourceParts} (readable : parts.Readable)
    (classIdentifier : isIdentifier model.className = true) (groups : List (List String)) :
    ∃ lines, (declareModel appName model parts groups).code = "\n".intercalate lines ∧ lines ≠ [] ∧
      (∀ line ∈ lines, OneLine line) ∧ ReadsAs lines (parts.read model).declarations := by
  obtain ⟨closing, groupsText, closed, closingLine, groupsLine, code⟩ := declareModel_lines appName model parts groups
  have classLine := oneLine_of_isIdentifier classIdentifier
  have tableLine := oneLine_quote model.info.dbTable
  refine ⟨_, code, by simp, ?lines, fun out => ?reads⟩
  case lines =>
    simp only [List.forall_mem_append, List.forall_mem_cons, List.not_mem_nil, IsEmpty.forall_iff, implies_true,
      and_true, oneLine_append, classLine, tableLine, groupsLine, closingLine, oneLine_quote, true_and]
    -- what is left are the fixed texts and the field and relation lines
    exact ⟨⟨⟨⟨by decide, readable.lines⟩, by decide⟩, oneLine_relationLines readable.relations⟩, by decide⟩
  case reads =>
    simp only [List.map_append, List.foldl_append, List.map_cons, List.map_nil, List.foldl_cons, List.foldl_nil]
    have blank : "".toList.head? ≠ some 'e' := by decide
    rw [readLine_top_table classIdentifier, readable.keys, readLine_table_close closed, readLine_top_other blank,
      readLine_top_block classIdentifier, readLine_block_table, readLine_block_app, readLine_block_uniqueTogether,
      readLines_relationLines _ _ _ readable.relations, readLine_block_close (by decide), readLine_top_other blank]
    simp [ModelRead.declarations, SourceParts.read]

/-! ## A whole module -/

/-- Sections joined by blank lines and ended by a line feed are the lines of the
sections, each followed by a blank line. -/
theorem intercalate_sections : ∀ (sections : List (List String)), sections ≠ [] → (∀ L ∈ sections, L ≠ []) →
    "\n\n".intercalate (sections.map ("\n".intercalate ·)) ++ "\n" =
      "\n".intercalate (sections.flatMap (· ++ [""]))
  | [], nonempty, _ => absurd rfl nonempty
  | [L], _, nonempty => by
    rw [List.flatMap_singleton, String.intercalate_append_of_ne_nil (nonempty L (List.mem_singleton_self L))
      (List.cons_ne_nil "" [])]
    simp
  | L :: L' :: rest, _, nonempty => by
    have first := nonempty L List.mem_cons_self
    have later : (L' :: rest).flatMap (· ++ [""]) ≠ [] := by simp
    have unfolded : (L :: L' :: rest).flatMap (· ++ [""]) = (L ++ [""]) ++ (L' :: rest).flatMap (· ++ [""]) := rfl
    rw [List.map_cons, List.map_cons, String.intercalate_cons_cons, ← List.map_cons, String.append_assoc,
      intercalate_sections (L' :: rest) (List.cons_ne_nil _ _) fun M member => nonempty M (List.mem_cons_of_mem _ member),
      unfolded, String.intercalate_append_of_ne_nil (by simp) later,
      String.intercalate_append_of_ne_nil first (List.cons_ne_nil "" [])]
    simp only [String.intercalate_singleton, String.append_empty, String.append_assoc]
    rfl

/-- Sections that each read back, read back one after another. -/
theorem readsAs_flatMap {sections : List (List String)} {declared : List (List Declared)}
    (each : List.Forall₂ ReadsAs sections declared) (out : List Declared) :
    ((sections.flatMap (· ++ [""])).map String.toList).foldl readLine (.top, out) = (.top, out ++ declared.flatten) := by
  induction each generalizing out with
  | nil => simp
  | cons reads _ ih =>
    rw [List.flatMap_cons, List.map_append, List.foldl_append, reads out, ih]
    simp

theorem readModule_sections {sections : List (List String)} {declared : List (List Declared)}
    (present : sections ≠ []) (nonempty : ∀ L ∈ sections, L ≠ [])
    (lines : ∀ L ∈ sections, ∀ line ∈ L, OneLine line) (each : List.Forall₂ ReadsAs sections declared) :
    readModule ("\n\n".intercalate (sections.map ("\n".intercalate ·)) ++ "\n") = declared.flatten := by
  have oneLine : ∀ l ∈ (sections.flatMap (· ++ [""])).map String.toList, '\n' ∉ l := by
    intro l member
    obtain ⟨line, written, rfl⟩ := List.mem_map.mp member
    obtain ⟨L, listed, inL⟩ := List.mem_flatMap.mp written
    rcases List.mem_append.mp inL with own | blank
    · exact lines L listed line own
    · rw [List.mem_singleton.mp blank]
      decide
  have split : ("\n".intercalate (sections.flatMap (· ++ [""]))).toList.splitOn '\n' =
      (sections.flatMap (· ++ [""])).map String.toList := by
    rw [String.toList_intercalate, show "\n".toList = ['\n'] from rfl]
    refine List.splitOn_intercalate '\n' oneLine ?_
    obtain ⟨L, rest, rfl⟩ := List.exists_cons_of_ne_nil present
    simp
  unfold readModule
  rw [intercalate_sections sections present nonempty, split, readsAs_flatMap each []]
  simp

/-- Lines none of which starts a declaration read as nothing. -/
theorem readsAs_passed {lines : List String} (passed : ∀ line ∈ lines, line.toList.head? ≠ some 'e') :
    ReadsAs lines [] := by
  intro out
  induction lines with
  | nil =>
    simp only [List.nil_append, List.map_cons, List.map_nil, List.foldl_cons, List.foldl_nil, List.append_nil]
    exact readLine_top_other (by decide) out
  | cons line rest ih =>
    rw [List.cons_append, List.map_cons, List.foldl_cons, readLine_top_other (passed line List.mem_cons_self)]
    exact ih fun l member => passed l (List.mem_cons_of_mem _ member)

/-- Sections none of whose lines starts a declaration each read as nothing. -/
theorem forall₂_readsAs_passed {sections : List (List String)}
    (passed : ∀ L ∈ sections, ∀ line ∈ L, line.toList.head? ≠ some 'e') :
    List.Forall₂ ReadsAs sections (sections.map fun _ => []) := by
  rw [List.forall₂_map_right_iff, List.forall₂_same]
  exact fun L listed => readsAs_passed (passed L listed)

theorem mem_distinct {xs : List String} {x : String} (member : x ∈ distinct xs) : x ∈ xs := by
  -- the kept texts are texts met before or texts of the list
  have kept : ∀ (xs acc : List String), x ∈ xs.foldl (fun acc x => if acc.contains x then acc else acc ++ [x]) acc →
      x ∈ acc ∨ x ∈ xs := by
    intro xs
    induction xs with
    | nil => exact fun acc member => .inl member
    | cons y rest ih =>
      intro acc member
      rw [List.foldl_cons] at member
      rcases ih _ member with old | later
      · split at old
        · exact .inl old
        · rcases List.mem_append.mp old with old | new
          · exact .inl old
          · exact .inr (List.mem_singleton.mp new ▸ List.mem_cons_self)
      · exact .inr (List.mem_cons_of_mem _ later)
  rcases kept xs [] member with none | listed
  · cases none
  · exact listed

theorem renderImports_lines {imports : List Import} (named : ∀ i ∈ imports, OneLine i.name) :
    ∀ line ∈ renderImports imports, OneLine line ∧ line.toList.head? ≠ some 'e' := by
  intro line member
  obtain ⟨⟨module, names⟩, grouped, rfl⟩ := List.mem_map.mp member
  refine ⟨oneLine_importLine module fun n listed => ?_, ?_⟩
  · -- every name of a group is the name of an import
    have imported : n.1 ∈ importedNames imports :=
      List.mem_flatMap.mpr ⟨(module, names), grouped, List.mem_map_of_mem listed⟩
    obtain ⟨i, member, same⟩ := mem_importedNames.mp imported
    exact same ▸ named i member
  · simp only [importLine, String.toList_append, List.head?_append,
      show "import \x7b ".toList.head? = some 'i' by decide, Option.some_or]
    decide

/-- A model's text that reads back as `read`: its lines, each on one line, read as
the declarations of `read`. -/
def ModelSource.ReadsBack (source : ModelSource) (read : ModelRead) : Prop :=
  ∃ lines, source.code = "\n".intercalate lines ∧ lines ≠ [] ∧ (∀ line ∈ lines, OneLine line) ∧
    ReadsAs lines read.declarations

theorem lines_of_readsBack {mine : List ModelSource} {reads : List ModelRead}
    (back : List.Forall₂ ModelSource.ReadsBack mine reads) :
    ∃ sections : List (List String), mine.map (·.code) = sections.map ("\n".intercalate ·) ∧
      (∀ L ∈ sections, L ≠ []) ∧ (∀ L ∈ sections, ∀ line ∈ L, OneLine line) ∧
      List.Forall₂ ReadsAs sections (reads.map ModelRead.declarations) := by
  induction back with
  | nil => exact ⟨[], rfl, by simp, by simp, .nil⟩
  | cons first _ ih =>
    obtain ⟨lines, code, nonempty, oneLine, reads⟩ := first
    obtain ⟨sections, codes, allNonempty, allOneLine, each⟩ := ih
    exact ⟨lines :: sections, by simp [code, codes], List.forall_mem_cons.mpr ⟨nonempty, allNonempty⟩,
      List.forall_mem_cons.mpr ⟨oneLine, allOneLine⟩, .cons reads each⟩

/-- A module of texts that read back reads back as their declarations, in order. -/
theorem readModule_renderAppModule {mine : List ModelSource} {reads : List ModelRead}
    (back : List.Forall₂ ModelSource.ReadsBack mine reads)
    (imports : ∀ source ∈ mine, ∀ i ∈ source.imports, OneLine i.name)
    (only : OnlyBytea (mine.flatMap (·.preamble))) :
    readModule (renderAppModule mine) = reads.flatMap ModelRead.declarations := by
  obtain ⟨sections, codes, nonempty, oneLine, each⟩ := lines_of_readsBack back
  obtain ⟨bytea, byteaText, byteaNonempty, byteaOneLine, byteaPassed⟩ := byteaPreamble_lines
  have importLines : ∀ line ∈ renderImports (mine.flatMap (·.imports)), OneLine line ∧ line.toList.head? ≠ some 'e' :=
    renderImports_lines fun i member => by
      obtain ⟨source, listed, imported⟩ := List.mem_flatMap.mp member
      exact imports source listed i imported
  -- the import lines are one section, present when there are imports
  obtain ⟨importSections, importText, importNonempty, importPassed⟩ : ∃ I : List (List String),
      (if (renderImports (mine.flatMap (·.imports))).isEmpty then []
        else ["\n".intercalate (renderImports (mine.flatMap (·.imports)))]) = I.map ("\n".intercalate ·) ∧
      (∀ L ∈ I, L ≠ []) ∧ ∀ L ∈ I, ∀ line ∈ L, OneLine line ∧ line.toList.head? ≠ some 'e' := by
    split
    · exact ⟨[], rfl, by simp, by simp⟩
    · next present =>
      refine ⟨[renderImports (mine.flatMap (·.imports))], rfl, ?_, ?_⟩
      · simpa using present
      · simpa using importLines
  -- every preamble text is the binary column declaration
  have preamble : (distinct (mine.flatMap (·.preamble))).map (fun _ => "\n".intercalate bytea) =
      distinct (mine.flatMap (·.preamble)) := by
    conv_rhs => rw [← List.map_id (distinct (mine.flatMap (·.preamble)))]
    exact List.map_congr_left fun p member => by rw [← byteaText, only p (mem_distinct member), id]
  have passed : ∀ L ∈ [[generatedHeader]] ++ importSections ++ (distinct (mine.flatMap (·.preamble))).map (fun _ => bytea),
      ∀ line ∈ L, OneLine line ∧ line.toList.head? ≠ some 'e' := by
    simp only [List.mem_append, List.mem_singleton, List.mem_map]
    rintro L ((rfl | imported) | ⟨p, -, rfl⟩) line member
    · rw [List.mem_singleton.mp member]
      decide
    · exact importPassed L imported line member
    · exact ⟨byteaOneLine line member, byteaPassed line member⟩
  have text : renderAppModule mine = "\n\n".intercalate (([[generatedHeader]] ++ importSections ++
      (distinct (mine.flatMap (·.preamble))).map (fun _ => bytea) ++ sections).map ("\n".intercalate ·)) ++ "\n" := by
    unfold renderAppModule
    simp only [List.map_append, List.map_cons, List.map_nil, String.intercalate_singleton, ← importText, List.map_map,
      Function.comp_def, preamble, ← codes]
  rw [text, readModule_sections (by simp) ?nonempty ?lines
    (List.rel_append (forall₂_readsAs_passed fun L listed line member => (passed L listed line member).2) each)]
  case nonempty =>
    simp only [List.mem_append, List.mem_singleton, List.mem_map]
    rintro L (((rfl | imported) | ⟨p, -, rfl⟩) | modelSection)
    · simp
    · exact importNonempty L imported
    · exact byteaNonempty
    · exact nonempty L modelSection
  case lines =>
    intro L listed line member
    rcases List.mem_append.mp listed with fixed | modelSection
    · exact (passed L fixed line member).1
    · exact oneLine L modelSection line member
  simp [List.flatMap]

/-! ## Rendered models -/

theorem renderParts_readable {schema : Schema} {names : ClassNames} {model : ModelPlan}
    {log after : List LogEntry} {parts : SourceParts}
    (fieldsNamed : ∀ info ∈ model.info.fields, info.namesIdentifiers = true)
    (classesNamed : ∀ label className, names.get? label = some className → isIdentifier className = true)
    (rendered : (renderParts schema names model).run.run log = (.ok parts, after)) : parts.Readable := by
  unfold renderParts at rendered
  obtain ⟨plans, middle, planned, folded⟩ := Run.run_bind_eq_ok rendered
  obtain ⟨middle', planned'⟩ := planFields_run model names log
  rw [planned'] at planned
  cases Except.ok.inj (Prod.mk.inj planned).1
  -- each planned field keeps the parts readable, from the parts of no field
  refine Run.foldlM_preserves _ (fun plan member _ _ _ _ readable added =>
    addField_readable readable ?_ ?_ added) _ _ _ _ SourceParts.readable_start folded
  · obtain ⟨info, listed, planning⟩ := List.mem_filterMap.mp member
    rw [FieldInfo.plan?_info planning]
    exact fieldsNamed info listed
  · rintro info target className rfl
    exact classesNamed target className (FieldInfo.planned_relation member).2.2.1

theorem declareModel_imports (appName : String) (model : ModelPlan) (parts : SourceParts)
    (groups : List (List String)) :
    ∀ i ∈ (declareModel appName model parts groups).imports, i ∈ parts.imports ∨ i = pgImport "unique" := by
  unfold declareModel
  by_cases empty : groups.isEmpty
  · simp only [empty, if_true]
    exact fun i member => .inl member
  · simp only [empty, if_false, Bool.false_eq_true]
    intro i member
    simpa using member

/-- A model the text renderer renders reads back as its class name, its quoted table
name, and keys that are its field names. -/
theorem renderModel_readsBack {schema : Schema} {appName : String} {names : ClassNames} {model : ModelPlan}
    {log after : List LogEntry} {source : ModelSource} (named : model.namesIdentifiers = true)
    (classesNamed : ∀ label className, names.get? label = some className → isIdentifier className = true)
    (rendered : (renderModel schema appName names model).run.run log = (.ok (some source), after)) :
    ∃ read, source.ReadsBack read ∧ (∀ i ∈ source.imports, OneLine i.name) ∧
      read.className = source.className ∧ source.label = model.label ∧
      read.tableName = Text.quote model.info.dbTable ∧
      ∀ key, key ∈ read.columns ∨ key ∈ read.relations ↔ key ∈ source.fieldNames := by
  unfold ModelPlan.namesIdentifiers at named
  simp only [Bool.and_eq_true, List.all_eq_true] at named
  obtain ⟨parts, groups, middle, partsRun, rfl⟩ := renderModel_parts rendered
  have readable := renderParts_readable named.2 classesNamed partsRun
  refine ⟨parts.read model, declareModel_readsAs appName model readable named.1 groups, fun i imported => ?_,
    rfl, rfl, rfl, readable.fieldNames⟩
  rcases declareModel_imports appName model parts groups i imported with own | rfl
  · exact readable.imports i own
  · decide

end Code

/-! ## Generated modules -/

theorem exists_forall₂_of_forall {α β : Type} {R : α → β → Prop} :
    ∀ {xs : List α}, (∀ x ∈ xs, ∃ y, R x y) → ∃ ys, List.Forall₂ R xs ys
  | [], _ => ⟨[], .nil⟩
  | x :: rest, each => by
    obtain ⟨y, related⟩ := each x List.mem_cons_self
    obtain ⟨ys, all⟩ := exists_forall₂_of_forall fun x' member => each x' (List.mem_cons_of_mem x member)
    exact ⟨y :: ys, .cons related all⟩

/-- A model whose unique field `1x` is the target of another model's foreign key. -/
def numericKeyManifest : Manifest :=
  { defaultAutoField := "BigAutoField", enums := []
    models := [
      { app := "a", name := "C", fields := [{ name := "1x", kind := "IntegerField", unique := some true }] },
      { app := "a", name := "B"
        fields := [{ name := "c", kind := "ForeignKey", relatedTo := some "a.C", toField := some "1x" }] }] }

end ModelTables
