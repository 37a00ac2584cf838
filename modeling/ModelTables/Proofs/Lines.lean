import ModelTables.Code.Model
import ModelTables.Proofs.Run
import ModelTables.Proofs.Units
import ModelTables.Proofs.Parity

/-! # Lines of generated text

A generated module is read line by line, so nothing the text renderer writes inside
a line may hold a line feed; `Code.OneLine` says so of a text.  Quoted texts,
numbers and JSON texts are one-line whatever they hold.  Column expressions,
property keys, relation descriptors and import lines are one-line when the names
they write unquoted are, and identifiers are.  `declareModel_lines` gives the lines
of a model's declaration, and `FieldInfo.namesIdentifiers` and
`ModelPlan.namesIdentifiers` name the condition under which all of them are
one-line: the names a declaration writes unquoted are identifiers.
-/

namespace ModelTables

/-- A character missing from a separator and from every piece is missing from the
pieces joined by it. -/
theorem not_mem_intercalate {α : Type} {a : α} {sep : List α} {pieces : List (List α)}
    (notSep : a ∉ sep) (notPiece : ∀ piece ∈ pieces, a ∉ piece) : a ∉ sep.intercalate pieces := by
  induction pieces with
  | nil => simp
  | cons piece rest ih =>
    cases rest with
    | nil => simpa using notPiece piece (by simp)
    | cons next later =>
      rw [List.intercalate_cons_cons]
      simp only [List.mem_append, not_or]
      exact ⟨⟨notPiece piece (by simp), notSep⟩, ih fun p member => notPiece p (List.mem_cons_of_mem _ member)⟩

namespace Code

/-- A text without a line feed, so it stays on one line of a module. -/
def OneLine (s : String) : Prop := '\n' ∉ s.toList

instance : DecidablePred OneLine := fun s => inferInstanceAs (Decidable ('\n' ∉ s.toList))

@[simp] theorem oneLine_append {a b : String} : OneLine (a ++ b) ↔ OneLine a ∧ OneLine b := by
  simp [OneLine, String.toList_append, not_or]

@[simp] theorem oneLine_ofList {cs : List Char} : OneLine (String.ofList cs) ↔ '\n' ∉ cs := by
  simp [OneLine]

theorem oneLine_intercalate {sep : String} {pieces : List String} (sepLine : OneLine sep)
    (piecesLine : ∀ piece ∈ pieces, OneLine piece) : OneLine (sep.intercalate pieces) := by
  unfold OneLine
  rw [String.toList_intercalate]
  refine not_mem_intercalate sepLine fun piece member => ?_
  obtain ⟨text, listed, rfl⟩ := List.mem_map.mp member
  exact piecesLine text listed

theorem oneLine_of_isIdentifier {name : String} (identifier : isIdentifier name = true) : OneLine name := by
  unfold isIdentifier at identifier
  unfold OneLine
  -- every character of an identifier is an identifier character, and a line feed is not
  cases chars : name.toList with
  | nil => simp
  | cons c rest =>
    rw [chars] at identifier
    simp only [Bool.and_eq_true, List.all_eq_true] at identifier
    obtain ⟨⟨first, -⟩, others⟩ := identifier
    intro listed
    rcases List.mem_cons.mp listed with same | later
    · rw [← same] at first
      exact absurd first (by decide)
    · exact absurd (others '\n' later) (by decide)

/-! ## Quoted texts and numbers -/

theorem hexDigit_ne {n : Nat} (small : n < 16) : Text.hexDigit n ≠ '\n' :=
  (by decide : ∀ n < 16, Text.hexDigit n ≠ '\n') n small

theorem not_mem_hex4 (u : Nat) : '\n' ∉ Text.hex4 u := by
  have digit : ∀ k, Text.hexDigit (k % 16) ≠ '\n' := fun k => hexDigit_ne (Nat.mod_lt k (by decide))
  simp only [Text.hex4, List.mem_cons, List.not_mem_nil, or_false, not_or]
  exact ⟨(digit _).symm, (digit _).symm, (digit _).symm, (digit _).symm⟩

theorem not_mem_escapeChar (c : Char) : '\n' ∉ Text.escapeChar c := by
  rcases Text.escapeChar_shapes c with ⟨e, short, escape⟩ | ⟨-, escape⟩ | ⟨-, -, printable, escape⟩ <;>
    rw [escape]
  · -- no short escape's letter is a line feed: the line feed itself is written `\n`
    simp only [Text.shortEscapes, List.mem_cons, Prod.mk.injEq, List.not_mem_nil, or_false] at short
    rcases short with ⟨-, rfl⟩ | ⟨-, rfl⟩ | ⟨-, rfl⟩ | ⟨-, rfl⟩ | ⟨-, rfl⟩ | ⟨-, rfl⟩ | ⟨-, rfl⟩ <;> decide
  · simp [not_mem_hex4]
  · -- a character written as itself is printable
    rw [List.mem_singleton]
    rintro rfl
    exact absurd printable (by decide)

theorem oneLine_quote (s : String) : OneLine (Text.quote s) := by
  unfold Text.quote
  rw [oneLine_ofList]
  simp only [List.mem_cons, List.mem_append, List.mem_flatMap, List.not_mem_nil, or_false, not_or]
  refine ⟨by decide, ?_, by decide⟩
  rintro ⟨piece, -, escaped⟩
  cases piece with
  | char c => exact not_mem_escapeChar c escaped
  | lone u =>
    simp only [Text.escapePiece, List.mem_cons] at escaped
    rcases escaped with bad | bad | bad
    · exact absurd bad (by decide)
    · exact absurd bad (by decide)
    · exact not_mem_hex4 u bad

theorem digitChar_ne {d : Nat} (small : d < 10) : Nat.digitChar d ≠ '\n' :=
  (by decide : ∀ d < 10, Nat.digitChar d ≠ '\n') d small

theorem not_mem_toDigitsCore :
    ∀ (fuel n : Nat) (acc : List Char), '\n' ∉ acc → '\n' ∉ Nat.toDigitsCore 10 fuel n acc := by
  intro fuel
  induction fuel with
  | zero =>
    intro n acc clear
    simpa [Nat.toDigitsCore] using clear
  | succ fuel ih =>
    intro n acc clear
    have digit := Ne.symm (digitChar_ne (Nat.mod_lt n (by decide : 10 > 0)))
    unfold Nat.toDigitsCore
    dsimp only
    split
    · simp [clear, digit]
    · exact ih _ _ (by simp [clear, digit])

theorem not_mem_toDigits (n : Nat) : '\n' ∉ Nat.toDigits 10 n :=
  not_mem_toDigitsCore _ _ _ (by simp)

theorem oneLine_natRepr (n : Nat) : OneLine (toString n) := by
  change OneLine (Nat.repr n)
  rw [Nat.repr, oneLine_ofList]
  exact not_mem_toDigits n

theorem oneLine_intRepr (n : Int) : OneLine (toString n) := by
  change OneLine (Int.repr n)
  cases n with
  | ofNat m => exact oneLine_natRepr m
  | negSucc m => exact oneLine_append.mpr ⟨by decide, oneLine_natRepr (m + 1)⟩

theorem oneLine_place (layout : Decimal.Layout) {ds : List Char} (digits : '\n' ∉ ds) (n : Int) :
    OneLine (Decimal.place layout ds n) := by
  unfold Decimal.place
  dsimp only
  split
  · rw [oneLine_ofList]
    simp [digits, List.mem_replicate]
  · split
    · rw [oneLine_ofList]
      simp only [List.mem_append, List.mem_cons, not_or]
      exact ⟨fun taken => digits (List.mem_of_mem_take taken), by decide,
        fun dropped => digits (List.mem_of_mem_drop dropped)⟩
    · split
      · rw [oneLine_ofList]
        simp [digits, List.mem_replicate]
      · -- the exponent form: a mantissa of the digits, then the sign and the exponent
        refine oneLine_append.mpr ⟨oneLine_append.mpr ⟨oneLine_append.mpr ⟨?_, by decide⟩, ?_⟩,
          oneLine_natRepr _⟩
        · split
          · rw [oneLine_ofList]
            simpa using digits
          · rw [oneLine_ofList]
            simpa using digits
          · decide
        · split <;> decide

theorem oneLine_positiveText (b : Decimal.Binary) : OneLine (Decimal.positiveText b) := by
  unfold Decimal.positiveText
  split
  exact oneLine_place _ (not_mem_toDigits _) _

theorem oneLine_numberText (x : Float) : OneLine (Decimal.numberText x) := by
  unfold Decimal.numberText
  -- a fixed word, or the shortest digits of the magnitude, after a minus sign when negative
  split
  · decide
  split
  · decide
  split
  · split <;> decide
  split
  · split
    · exact oneLine_append.mpr ⟨by decide, oneLine_positiveText _⟩
    · decide
  · split
    · exact oneLine_positiveText _
    · decide

/-! ## JSON and literal texts -/

mutual

theorem oneLine_jsonText? : ∀ (v : Value) (text : String), v.jsonText? = some text → OneLine text
  | .undefined, _, written => by cases written
  | .callable, _, written => by cases written
  | .inherited (.method _), _, written => by cases written
  | .inherited .prototype, _, written => by cases written; decide
  | .null, _, written => by cases written; decide
  | .bool b, _, written => by cases written; cases b <;> decide
  | .number x, _, written => by
    cases written
    split
    · decide
    · exact oneLine_numberText x
  | .bigint n, _, written => by cases written; exact oneLine_intRepr n
  | .string s, _, written => by cases written; exact oneLine_quote s
  | .date t, _, written => by
    cases written
    split
    · exact oneLine_quote _
    · decide
  | .array items, _, written => by
    cases written
    simp only [oneLine_append]
    exact ⟨⟨by decide, oneLine_intercalate (by decide) (oneLine_itemsText items)⟩, by decide⟩
  | .object fields, _, written => by
    cases written
    simp only [oneLine_append]
    exact ⟨⟨by decide, oneLine_intercalate (by decide) (oneLine_membersText fields)⟩, by decide⟩

theorem oneLine_itemsText : ∀ (items : List Value), ∀ text ∈ Value.itemsText items, OneLine text
  | [], _, listed => by cases listed
  | v :: rest, text, listed => by
    rcases List.mem_cons.mp listed with rfl | later
    · rcases written : v.jsonText? with _ | text
      · decide
      · exact oneLine_jsonText? v text written
    · exact oneLine_itemsText rest text later

theorem oneLine_membersText : ∀ (fields : List (String × Value)), ∀ text ∈ Value.membersText fields, OneLine text
  | [], _, listed => by cases listed
  | (key, v) :: rest, text, listed => by
    unfold Value.membersText at listed
    split at listed
    · rename_i member written
      rcases List.mem_cons.mp listed with rfl | later
      · simp only [oneLine_append]
        exact ⟨⟨oneLine_quote key, by decide⟩, oneLine_jsonText? v member written⟩
      · exact oneLine_membersText rest text later
    · exact oneLine_membersText rest text listed

end

theorem oneLine_literalSource {v : Value} {text : String} (written : literalSource v = some text) :
    OneLine text := by
  cases v with
  | null =>
    cases written
    decide
  | string s => exact oneLine_jsonText? _ _ written
  | bool b => exact oneLine_jsonText? _ _ written
  | number x =>
    simp only [literalSource] at written
    split at written
    · cases written
    · cases written
      exact oneLine_numberText x
  | bigint n =>
    cases written
    exact oneLine_append.mpr ⟨oneLine_intRepr n, by decide⟩
  | date t =>
    cases t with
    | none => cases written
    | some time =>
      cases written
      exact oneLine_append.mpr ⟨oneLine_append.mpr ⟨by decide, oneLine_quote _⟩, by decide⟩
  | array _ | object _ =>
    simp only [literalSource] at written
    split at written
    · exact oneLine_jsonText? _ _ written
    · cases written
  | undefined => cases written
  | callable => cases written
  | inherited member => cases written

theorem oneLine_defaultLiteral {info : FieldInfo} {v : Value} {text : String}
    (written : defaultLiteral info v = some text) : OneLine text := by
  unfold defaultLiteral at written
  split at written
  · split at written
    · split at written
      · cases written
      · simp only [Option.some.injEq] at written
        subst written
        exact oneLine_quote _
    · exact oneLine_literalSource written
  · exact oneLine_literalSource written

/-! ## Column expressions -/

/-- A field source whose expression and comment stay on one line and whose imports
name one-line names. -/
def FieldSource.SingleLine (source : FieldSource) : Prop :=
  OneLine source.expression ∧ (∀ c ∈ source.comment, OneLine c) ∧ ∀ i ∈ source.imports, OneLine i.name

theorem builderCall_singleLine {builder : String} (column : String) {options : Option String}
    (builderLine : OneLine builder) (optionsLine : ∀ o ∈ options, OneLine o) :
    (builderCall builder column options).SingleLine := by
  refine ⟨?_, by simp [builderCall], by simp [builderCall, pgImport, builderLine]⟩
  unfold builderCall
  cases options with
  | none => simp +decide [builderLine, oneLine_quote]
  | some o => simp +decide [builderLine, oneLine_quote, optionsLine o rfl]

theorem oneLine_optionsText {entries : List String} (entriesLine : ∀ e ∈ entries, OneLine e) :
    OneLine (optionsText entries) := by
  unfold optionsText
  simp only [oneLine_append]
  exact ⟨⟨by decide, oneLine_intercalate (by decide) entriesLine⟩, by decide⟩

theorem oneLine_lengthEntries (length : Float) (choices : List String) :
    ∀ entry ∈ (if choices.isEmpty then ["length: " ++ Decimal.numberText length]
      else ["length: " ++ Decimal.numberText length,
        "enum: [" ++ ", ".intercalate (choices.map Text.quote) ++ "]"]), OneLine entry := by
  have lengthLine : OneLine ("length: " ++ Decimal.numberText length) :=
    oneLine_append.mpr ⟨by decide, oneLine_numberText length⟩
  have choicesLine : OneLine ("enum: [" ++ ", ".intercalate (choices.map Text.quote) ++ "]") := by
    refine oneLine_append.mpr ⟨oneLine_append.mpr ⟨by decide, oneLine_intercalate (by decide) ?_⟩, by decide⟩
    simp [oneLine_quote]
  split <;> simp [lengthLine, choicesLine]

/-- The bare builder call of a column spec. -/
theorem columnSource_untyped_singleLine (column : String) (builder : Builder) :
    (columnSource { column, builder }).SingleLine := by
  cases builder with
  | varchar length choices =>
    simp only [columnSource]
    refine builderCall_singleLine column (by decide) fun o listed => ?_
    cases listed
    exact oneLine_optionsText (oneLine_lengthEntries length choices)
  | numeric precision scale =>
    simp only [columnSource]
    refine builderCall_singleLine column (by decide) fun o listed => ?_
    split at listed
    · cases listed
    · cases listed
      refine oneLine_optionsText fun entry listed => ?_
      simp only [List.mem_append, Option.mem_toList, Option.map_eq_some_iff] at listed
      rcases listed with ⟨p, -, rfl⟩ | ⟨p, -, rfl⟩ <;>
        exact oneLine_append.mpr ⟨by decide, oneLine_numberText p⟩
  | _ => simp +decide [columnSource, builderCall, optionsText, FieldSource.SingleLine, pgImport, oneLine_quote]

/-- A spec typed by an enum writes its bare call with the enum's type. -/
theorem columnSource_typed (column : String) (builder : Builder) (e : ChoiceEnum) :
    columnSource { column, builder, enumType := some e } =
      { columnSource { column, builder } with
        expression := (columnSource { column, builder }).expression ++ ".$type<" ++ e.name ++ ">()"
        imports := (columnSource { column, builder }).imports ++ [{ module := e.module, name := e.name }] } := by
  cases builder <;> rfl

theorem columnSource_singleLine (spec : ColumnSpec) (enumLine : ∀ e ∈ spec.enumType, OneLine e.name) :
    (columnSource spec).SingleLine := by
  obtain ⟨column, builder, enumType⟩ := spec
  obtain ⟨expression, comment, imports⟩ := columnSource_untyped_singleLine column builder
  cases enumType with
  | none => exact ⟨expression, comment, imports⟩
  | some e =>
    -- the enum adds its type to the bare call and its name to the imports
    have named := enumLine e rfl
    rw [columnSource_typed]
    refine ⟨?_, comment, ?_⟩
    · simp +decide [expression, named]
    · intro i listed
      rcases List.mem_append.mp listed with bare | typed
      · exact imports i bare
      · rw [List.mem_singleton.mp typed]
        exact named

theorem factorySource_singleLine {f : Factory} {text : String} {imports : List Import}
    (written : factorySource f = some (text, imports)) : OneLine text ∧ ∀ i ∈ imports, OneLine i.name := by
  cases f <;> simp only [factorySource, Option.some.injEq, Prod.mk.injEq, reduceCtorEq] at written <;>
    obtain ⟨rfl, rfl⟩ := written <;> simp +decide

theorem modifiers_default_member {info : FieldInfo} {e : ChoiceEnum} {member : EnumMember}
    (defaulted : info.modifiers.default = .member e member) : info.default = .member e member := by
  unfold FieldInfo.modifiers at defaulted
  split at defaulted
  · exact defaulted
  · cases defaulted

/-- Modifiers keep a source on one line when the field's name and the enum member it
defaults to are one-line. -/
theorem applyModifiers_singleLine {source : FieldSource} (sourceLine : source.SingleLine) {info : FieldInfo}
    (nameLine : OneLine info.name)
    (memberLine : ∀ e member, info.default = .member e member → OneLine e.name ∧ OneLine member.name) :
    (applyModifiers source info).SingleLine := by
  obtain ⟨expression, comment, imports⟩ := sourceLine
  have modified : OneLine (source.expression ++ (if info.modifiers.primaryKey then ".primaryKey()" else "") ++
      (if info.modifiers.notNull then ".notNull()" else "") ++ (if info.modifiers.unique then ".unique()" else "")) := by
    simp only [oneLine_append]
    refine ⟨⟨⟨expression, ?_⟩, ?_⟩, ?_⟩ <;> split <;> decide
  have placeholder : OneLine ("TODO: set default for '" ++ info.name ++ "'") := by
    simp only [oneLine_append]
    exact ⟨⟨by decide, nameLine⟩, by decide⟩
  have nullDefault : OneLine (source.expression ++ (if info.modifiers.primaryKey then ".primaryKey()" else "") ++
      (if info.modifiers.notNull then ".notNull()" else "") ++
      (if info.modifiers.unique then ".unique()" else "") ++ ".default(" ++ sqlNull ++ ")") := by
    simp +decide [modified, sqlNull]
  have sqlImported : ∀ i ∈ source.imports ++ [{ module := "drizzle-orm", name := "sql" }], OneLine i.name :=
    List.forall_mem_append.mpr ⟨imports, List.forall_mem_singleton.mpr (by decide)⟩
  have placeholderComment : ∀ c ∈ some ("TODO: set default for '" ++ info.name ++ "'"), OneLine c := by
    intro c listed
    cases listed
    exact placeholder
  unfold applyModifiers
  dsimp only
  split
  · exact ⟨modified, comment, imports⟩
  · rename_i e member defaulted
    obtain ⟨enumLine, memberNameLine⟩ := memberLine e member (modifiers_default_member defaulted)
    exact ⟨by simp +decide [modified, enumLine, memberNameLine], comment,
      List.forall_mem_append.mpr ⟨imports, List.forall_mem_singleton.mpr enumLine⟩⟩
  · exact ⟨nullDefault, comment, sqlImported⟩
  · -- a literal default: its text, or a null default with a comment asking for one
    split
    · rename_i text written
      exact ⟨by simp +decide [modified, oneLine_defaultLiteral written], comment, imports⟩
    · exact ⟨nullDefault, placeholderComment, sqlImported⟩
  · split
    · rename_i text factoryImports written
      obtain ⟨textLine, importsLine⟩ := factorySource_singleLine written
      exact ⟨by simp +decide [modified, textLine], comment, List.forall_mem_append.mpr ⟨imports, importsLine⟩⟩
    · exact ⟨nullDefault, placeholderComment, sqlImported⟩

/-- A builder spec is typed by its field's enum, if by any. -/
theorem ColumnSpec.ofField_enumType (kind : ColumnKind) (info : FieldInfo) :
    ∀ e ∈ (ColumnSpec.ofField kind info).enumType, e ∈ info.enumType := by
  intro e typed
  rcases enumType : info.enumType with _ | e'
  · cases kind <;> simp [ColumnSpec.ofField, enumType] at typed
  · cases kind <;> simp only [ColumnSpec.ofField, enumType, Option.map_some, Option.getD_some] at typed <;>
      first
        | cases typed
        | (split at typed <;> cases typed <;> rfl)

theorem renderDataField_singleLine {info : FieldInfo} {log after : List LogEntry} {source : FieldSource}
    (rendered : (renderDataField info).run.run log = (.ok (some source), after)) (nameLine : OneLine info.name)
    (enumLine : ∀ e ∈ info.enumType, OneLine e.name)
    (memberLine : ∀ e member, info.default = .member e member → OneLine e.name ∧ OneLine member.name) :
    source.SingleLine := by
  unfold renderDataField at rendered
  split at rendered
  · cases rendered
    refine applyModifiers_singleLine (columnSource_singleLine _ fun e typed => ?_) nameLine memberLine
    exact enumLine e (ColumnSpec.ofField_enumType _ _ e typed)
  · obtain ⟨-, middle, -, rest⟩ := Run.run_bind_eq_ok rendered
    cases rest

theorem renderRelationField_singleLine {info : FieldInfo} {targetClassName : String}
    {log after : List LogEntry} {d : RelationDescriptor} {source : FieldSource}
    (rendered : (renderRelationField info targetClassName).run.run log = (.ok (some (d, some source)), after))
    (classLine : OneLine targetClassName) (referencedLine : OneLine d.references) :
    source.SingleLine := by
  obtain ⟨-, base, _, referenced, rfl⟩ := renderRelationField_column rendered
  -- the reference column is a bare column, or an integer when its kind has none
  have baseLine : base.SingleLine := by
    rcases referenceSource_eq_ok referenced with ⟨kind, rfl⟩ | rfl
    · refine columnSource_singleLine _ fun e typed => ?_
      cases ColumnSpec.ofField_enumType _ _ e typed
    · exact builderCall_singleLine _ (by decide) (by simp)
  obtain ⟨expression, comment, imports⟩ := baseLine
  refine ⟨?_, comment, List.forall_mem_append.mpr ⟨imports, List.forall_mem_singleton.mpr (by decide)⟩⟩
  simp +decide only [oneLine_append, expression, classLine, referencedLine, oneLine_quote, true_and]
  -- the modifiers are fixed texts
  split
  · decide
  · simp only [oneLine_append]
    constructor <;> split <;> decide

/-! ## Keys, descriptors and imports -/

theorem oneLine_propertyKey {name : String} (nameLine : OneLine name) : OneLine (propertyKey name) := by
  unfold propertyKey
  split
  · exact nameLine
  · exact oneLine_quote name

theorem oneLine_propertyAccess {target : String} (targetLine : OneLine target) (name : String) :
    OneLine (propertyAccess target name) := by
  unfold propertyAccess
  split
  · rename_i identifier
    simp +decide [targetLine, oneLine_of_isIdentifier identifier]
  · simp +decide [targetLine, oneLine_quote]

theorem oneLine_descriptorText (d : RelationDescriptor) : OneLine (descriptorText d) := by
  unfold descriptorText
  simp only [oneLine_append]
  refine ⟨⟨⟨⟨?_, ?_⟩, ?_⟩, ?_⟩, by decide⟩
  · simp +decide [oneLine_quote]
  · split <;> simp +decide [oneLine_quote]
  · decide
  · split <;> simp +decide [oneLine_quote]

theorem oneLine_importLine (module : String) {names : List (String × Bool)}
    (namesLine : ∀ n ∈ names, OneLine n.1) : OneLine (importLine module names) := by
  unfold importLine
  dsimp only
  simp only [oneLine_append]
  refine ⟨⟨⟨⟨by decide, oneLine_intercalate (by decide) ?_⟩, by decide⟩, oneLine_quote module⟩, by decide⟩
  intro specifier listed
  obtain ⟨⟨name, typeOnly⟩, member, rfl⟩ := List.mem_map.mp listed
  have nameLine := namesLine (name, typeOnly) member
  split
  · exact oneLine_append.mpr ⟨by decide, nameLine⟩
  · exact nameLine

theorem propertyKey_of_isIdentifier {name : String} (identifier : isIdentifier name = true) :
    propertyKey name = name := by
  simp [propertyKey, identifier]

/-! ## The lines of a declaration -/

theorem oneLine_jsonText (v : Value) : OneLine v.jsonText := by
  unfold Value.jsonText
  rcases written : v.jsonText? with _ | text
  · decide
  · exact oneLine_jsonText? v text written

/-- The lines of a block's relations: an empty object, or one entry a line. -/
def relationLines (relations : List (String × RelationDescriptor)) : List String :=
  if relations.isEmpty then ["  relations: \x7b\x7d,"]
  else ["  relations: \x7b"] ++
    relations.map (fun (key, d) => "    " ++ propertyKey key ++ ": " ++ descriptorText d ++ ",") ++ ["  \x7d,"]

/-- The lines of a model's declaration: the table opening, the field lines, a closing
line that starts with a brace, and the metadata block, whose entries hold on one line. -/
theorem declareModel_lines (appName : String) (model : ModelPlan) (parts : SourceParts)
    (groups : List (List String)) :
    ∃ closing groupsText, closing.toList.head? = some '\x7d' ∧ OneLine closing ∧ OneLine groupsText ∧
      (declareModel appName model parts groups).code = "\n".intercalate
        (["export const " ++ model.className ++ " = pgTable(" ++ Text.quote model.info.dbTable ++ ", \x7b"] ++
          parts.lines ++ [closing, "", "export const " ++ model.className ++ "Meta = \x7b",
            "  table: " ++ Text.quote model.info.dbTable ++ ",", "  app: " ++ Text.quote appName ++ ",",
            "  uniqueTogether: " ++ groupsText ++ ","] ++
          relationLines parts.relations ++ ["\x7d as const;"]) := by
  unfold declareModel
  have groupsLine := oneLine_jsonText (Value.array (groups.map fun g => .array (g.map .string)))
  by_cases empty : groups.isEmpty
  · refine ⟨"\x7d);", _, by decide, by decide, groupsLine, ?_⟩
    simp only [empty, if_true, relationLines]
  · -- the closing line lists the kept groups, each key written as an access
    refine ⟨"\x7d, (table) => [" ++ ", ".intercalate (groups.map fun group =>
      "unique().on(" ++ ", ".intercalate (group.map (propertyAccess "table")) ++ ")") ++ "]);", _, ?_, ?_,
      groupsLine, ?_⟩
    · simp only [String.toList_append, List.head?_append,
        show "\x7d, (table) => [".toList.head? = some '\x7d' by decide, Option.some_or]
    · simp only [oneLine_append]
      refine ⟨⟨by decide, oneLine_intercalate (by decide) fun piece member => ?_⟩, by decide⟩
      obtain ⟨group, -, rfl⟩ := List.mem_map.mp member
      simp only [oneLine_append]
      refine ⟨⟨by decide, oneLine_intercalate (by decide) fun key listed => ?_⟩, by decide⟩
      obtain ⟨key, -, rfl⟩ := List.mem_map.mp listed
      exact oneLine_propertyAccess (by decide) key
    · simp only [empty, if_false, Bool.false_eq_true, relationLines]

theorem oneLine_relationLines {relations : List (String × RelationDescriptor)}
    (named : ∀ r ∈ relations, isIdentifier r.1 = true) : ∀ line ∈ relationLines relations, OneLine line := by
  unfold relationLines
  split
  · simp only [List.forall_mem_singleton]
    decide
  · simp only [List.forall_mem_append, List.forall_mem_singleton, List.forall_mem_map]
    refine ⟨⟨by decide, fun ⟨key, d⟩ listed => ?_⟩, by decide⟩
    simp only [oneLine_append]
    exact ⟨⟨⟨⟨by decide, oneLine_propertyKey (oneLine_of_isIdentifier (named _ listed))⟩, by decide⟩,
      oneLine_descriptorText d⟩, by decide⟩

theorem byteaPreamble_lines : ∃ lines, byteaPreamble = "\n".intercalate lines ∧ lines ≠ [] ∧
    (∀ line ∈ lines, OneLine line) ∧ ∀ line ∈ lines, line.toList.head? ≠ some 'e' :=
  ⟨_, rfl, by simp, by decide, by decide⟩

end Code

/-! ## Names written unquoted -/

section Named

open Code

/-- The names a field's declaration writes unquoted are identifiers: its own name,
the name of the field it references, the enum that types it and the enum and
member it defaults to. -/
def FieldInfo.namesIdentifiers (info : FieldInfo) : Bool :=
  isIdentifier info.name && info.relatedFieldName.all isIdentifier && info.enumType.all (isIdentifier ·.name) &&
    match info.default with
    | .member e member => isIdentifier e.name && isIdentifier member.name
    | _ => true

/-- The names a model's declaration writes unquoted are identifiers. -/
def ModelPlan.namesIdentifiers (model : ModelPlan) : Bool :=
  isIdentifier model.className && model.info.fields.all FieldInfo.namesIdentifiers

variable {info : FieldInfo} (named : info.namesIdentifiers = true)
include named

theorem FieldInfo.namesIdentifiers_name : isIdentifier info.name = true := by
  unfold FieldInfo.namesIdentifiers at named
  simp only [Bool.and_eq_true] at named
  exact named.1.1.1

theorem FieldInfo.namesIdentifiers_referenced : OneLine (info.relatedFieldName.getD "id") := by
  unfold FieldInfo.namesIdentifiers at named
  simp only [Bool.and_eq_true] at named
  rcases referenced : info.relatedFieldName with _ | n
  · decide
  · rw [referenced] at named
    exact oneLine_of_isIdentifier (by simpa using named.1.1.2)

theorem FieldInfo.namesIdentifiers_enumType : ∀ e ∈ info.enumType, OneLine e.name := by
  unfold FieldInfo.namesIdentifiers at named
  simp only [Bool.and_eq_true] at named
  intro e typed
  rw [Option.mem_def] at typed
  have := named.1.2
  rw [typed] at this
  exact oneLine_of_isIdentifier (by simpa using this)

theorem FieldInfo.namesIdentifiers_member :
    ∀ e member, info.default = .member e member → OneLine e.name ∧ OneLine member.name := by
  unfold FieldInfo.namesIdentifiers at named
  simp only [Bool.and_eq_true] at named
  intro e member defaulted
  have := named.2
  rw [defaulted] at this
  simp only [Bool.and_eq_true] at this
  exact ⟨oneLine_of_isIdentifier this.1, oneLine_of_isIdentifier this.2⟩

end Named

end ModelTables
