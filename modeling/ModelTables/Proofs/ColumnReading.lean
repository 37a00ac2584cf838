import ModelTables.Proofs.Declarations
import ModelTables.Proofs.Defaults
import ModelTables.Proofs.Units

/-! # Column expressions read back

The text renderer writes each stored field as a column expression: a builder call
`name("column", { key: value, … })` followed by modifiers `.m(…)`.  This module
reads such an expression back.

`Code.readColumn` reads a column expression the way the table builders' language
reads it, for the forms the renderer writes: a builder name, the column's name as a
quoted text, option entries whose values are quoted texts, lists of quoted texts or
bare words, and the modifiers `.$type<E>()`, `.references((): AnyPgColumn => C.k,
{ onDelete: "rule" })`, `.primaryKey()`, `.notNull()`, `.unique()` and a last
`.default(…)` or `.$defaultFn(…)`.  Names written bare must be identifiers; the
reader does not know the language's reserved words.  `Code.callType` says what the
builders make of a call: its SQL type, the values of its enum, and whether it
generates its own values.

Main statement: `readColumn_complete`.  A column expression as the renderer writes
it (`ColumnRead.WellFormed`: identifiers where names stand bare, quoted texts where
texts stand, number words for numbers, a default modifier last) reads back as what
it was written from.
-/

namespace ModelTables

namespace Code

/-! ## Reading texts -/

/-- The characters of a quoted text after its opening quote, up to and with its
closing quote, and what follows: a backslash takes the character after it along. -/
def quotedRest : List Char → Option (List Char × List Char)
  | [] => none
  | c :: rest =>
    if c = '"' then some ([c], rest)
    else if c = '\\' then
      match rest with
      | [] => none
      | d :: more => (quotedRest more).map fun r => (c :: d :: r.1, r.2)
    else (quotedRest rest).map fun r => (c :: r.1, r.2)

/-- A quoted text at the start, quotes included, and what follows it. -/
def quoted? : List Char → Option (List Char × List Char)
  | [] => none
  | c :: rest => if c = '"' then (quotedRest rest).map fun r => (c :: r.1, r.2) else none

/-- An identifier at the start, and what follows it. -/
def identifier? (cs : List Char) : Option (String × List Char) :=
  if isIdentifier (String.ofList (cs.takeWhile isIdentChar)) then
    some (String.ofList (cs.takeWhile isIdentChar), cs.dropWhile isIdentChar)
  else none

/-- Whether a character may stand in a bare option value: a number or a word. -/
def isWordChar (c : Char) : Bool := isIdentChar c || c == '.' || c == '+' || c == '-'

/-- Read items separated by `, ` up to a closing text, each by `item`; `fuel` bounds
the number of items. -/
def readSeq {α : Type} (item : List Char → Option (α × List Char)) (close : List Char) :
    Nat → List Char → Option (List α × List Char)
  | 0, _ => none
  | fuel + 1, cs =>
    (item cs).bind fun first =>
      match dropPrefix? close first.2 with
      | some after => some ([first.1], after)
      | none =>
        (dropPrefix? ", ".toList first.2).bind fun more =>
          (readSeq item close fuel more).map fun others => (first.1 :: others.1, others.2)

/-! ## Reading a column expression -/

/-- An option value of a builder call: a quoted text, a list of quoted texts, or a bare
word such as a number or `true`.  Quoted texts are kept as written. -/
inductive OptionValue where
  | quoted (token : String)
  | list (tokens : List String)
  | word (text : String)
  deriving DecidableEq

/-- Read one option value. -/
def readValue (cs : List Char) : Option (OptionValue × List Char) :=
  if cs.head? = some '"' then (quoted? cs).map fun r => (.quoted (String.ofList r.1), r.2)
  else if cs.head? = some '[' then
    (readSeq quoted? [']'] cs.length cs.tail).map fun r => (.list (r.1.map String.ofList), r.2)
  else some (.word (String.ofList (cs.takeWhile isWordChar)), cs.dropWhile isWordChar)

/-- Read one option entry `key: value`. -/
def readEntry (cs : List Char) : Option ((String × OptionValue) × List Char) :=
  (identifier? cs).bind fun key =>
    (dropPrefix? ": ".toList key.2).bind fun afterKey =>
      (readValue afterKey).map fun value => ((key.1, value.1), value.2)

/-- Read the options of a builder call, `, \x7b key: value, … \x7d`, if it has any. -/
def readOptions (cs : List Char) : Option (List (String × OptionValue) × List Char) :=
  match dropPrefix? ", \x7b ".toList cs with
  | some body => readSeq readEntry " \x7d".toList body.length body
  | none => some ([], cs)

/-- A builder call read back: the builder's name, the column's name as written (a
quoted text), and the option entries. -/
structure CallRead where
  builder : String
  column : String
  options : List (String × OptionValue)
  deriving DecidableEq

/-- Read a builder call `name("column", \x7b … \x7d)`. -/
def readCall (cs : List Char) : Option (CallRead × List Char) :=
  (identifier? cs).bind fun builder =>
    (dropPrefix? ['('] builder.2).bind fun afterOpen =>
      (quoted? afterOpen).bind fun column =>
        (readOptions column.2).bind fun options =>
          (dropPrefix? [')'] options.2).map fun after =>
            (⟨builder.1, String.ofList column.1, options.1⟩, after)

/-- The column a reference points at, as written: the class name of its table, the
column's key, and the quoted delete rule. -/
structure ReferenceRead where
  className : String
  key : String
  onDelete : String
  deriving DecidableEq

/-- A modifier of a column expression. -/
inductive Modifier where
  /-- `.$type<E>()`: the column's values are typed by the enum `E`. -/
  | typed (enumName : String)
  | references (target : ReferenceRead)
  | primaryKey
  | notNull
  | unique
  /-- `.default(text)`, with its argument as written. -/
  | default (text : String)
  /-- `.$defaultFn(text)`, with its argument as written. -/
  | defaultFn (text : String)
  deriving DecidableEq

/-- The enum of `.$type<E>()`, read after the modifier's name. -/
def readTypeArgument (cs : List Char) : Option (String × List Char) :=
  (dropPrefix? ['<'] cs).bind fun afterOpen =>
    (identifier? afterOpen).bind fun name =>
      (dropPrefix? ">()".toList name.2).map fun after => (name.1, after)

/-- What follows the name of a reference modifier, up to the referenced table. -/
def referenceArrow : String := "((): AnyPgColumn => "

/-- What stands between a referenced column and its delete rule. -/
def deleteRuleKey : String := ", \x7b onDelete: "

/-- The target of `.references((): AnyPgColumn => C.k, \x7b onDelete: "rule" \x7d)`, read
after the modifier's name. -/
def readTarget (cs : List Char) : Option (ReferenceRead × List Char) := do
  let afterArrow ← dropPrefix? referenceArrow.toList cs
  let className ← identifier? afterArrow
  let afterDot ← dropPrefix? ['.'] className.2
  let key ← identifier? afterDot
  let afterKey ← dropPrefix? deleteRuleKey.toList key.2
  let rule ← quoted? afterKey
  let after ← dropPrefix? " \x7d)".toList rule.2
  pure (⟨className.1, key.1, String.ofList rule.1⟩, after)

/-- The argument of a last modifier: all that follows, in parentheses. -/
def lastArgument (cs : List Char) : Option String :=
  ((dropPrefix? ['('] cs).bind (dropSuffix? [')'])).map String.ofList

/-- Read the modifiers `.name(…)` that follow a builder call; `fuel` bounds their
number.  A `.default(…)` or `.$defaultFn(…)` takes all that follows as its argument. -/
def readModifiers : Nat → List Char → Option (List Modifier)
  | _, [] => some []
  | 0, _ :: _ => none
  | fuel + 1, c :: cs =>
    if c = '.' then
      (identifier? cs).bind fun name =>
        match name.1 with
        | "$type" => (readTypeArgument name.2).bind fun r => (readModifiers fuel r.2).map (.typed r.1 :: ·)
        | "references" => (readTarget name.2).bind fun r => (readModifiers fuel r.2).map (.references r.1 :: ·)
        | "primaryKey" => (dropPrefix? "()".toList name.2).bind fun r => (readModifiers fuel r).map (.primaryKey :: ·)
        | "notNull" => (dropPrefix? "()".toList name.2).bind fun r => (readModifiers fuel r).map (.notNull :: ·)
        | "unique" => (dropPrefix? "()".toList name.2).bind fun r => (readModifiers fuel r).map (.unique :: ·)
        | "default" => (lastArgument name.2).map fun text => [.default text]
        | "$defaultFn" => (lastArgument name.2).map fun text => [.defaultFn text]
        | _ => none
    else none

/-- A column expression read back: its builder call and its modifiers. -/
structure ColumnRead where
  call : CallRead
  modifiers : List Modifier
  deriving DecidableEq

/-- Read a column expression. -/
def readColumn (expression : String) : Option ColumnRead :=
  (readCall expression.toList).bind fun call =>
    (readModifiers call.2.length call.2).map fun modifiers => ⟨call.1, modifiers⟩

/-! ## What the table builders make of a call -/

/-- What the table builders make of a builder call: the column's SQL type, the values
of its enum as written, and whether it generates its own values (it is then never
null and has a default of its own). -/
structure CallType where
  sqlType : String
  enumValues : Option (List String)
  serial : Bool

/-- The calls the table builders make and the type of each.  `bigint` and `bigserial`
take numbers in the `number` mode and a timestamp keeps its time zone; a bounded text
has a length and may list the values of its enum; a decimal takes a precision, a
precision and a scale, or a scale alone, which its type does not show. -/
def callType : String → List (String × OptionValue) → Option CallType
  | "serial", [] => some ⟨"serial", none, true⟩
  | "bigserial", [("mode", .quoted "\"number\"")] => some ⟨"bigserial", none, true⟩
  | "smallserial", [] => some ⟨"smallserial", none, true⟩
  | "integer", [] => some ⟨"integer", none, false⟩
  | "bigint", [("mode", .quoted "\"number\"")] => some ⟨"bigint", none, false⟩
  | "smallint", [] => some ⟨"smallint", none, false⟩
  | "varchar", [("length", .word length)] => some ⟨"varchar(" ++ length ++ ")", none, false⟩
  | "varchar", [("length", .word length), ("enum", .list values)] =>
    some ⟨"varchar(" ++ length ++ ")", some values, false⟩
  | "text", [] => some ⟨"text", none, false⟩
  | "boolean", [] => some ⟨"boolean", none, false⟩
  | "date", [] => some ⟨"date", none, false⟩
  | "timestamp", [("withTimezone", .word "true")] => some ⟨"timestamp with time zone", none, false⟩
  | "time", [] => some ⟨"time", none, false⟩
  | "interval", [] => some ⟨"interval", none, false⟩
  | "numeric", [] => some ⟨"numeric", none, false⟩
  | "numeric", [("precision", .word precision)] => some ⟨"numeric(" ++ precision ++ ")", none, false⟩
  | "numeric", [("scale", .word _)] => some ⟨"numeric", none, false⟩
  | "numeric", [("precision", .word precision), ("scale", .word scale)] =>
    some ⟨"numeric(" ++ precision ++ ", " ++ scale ++ ")", none, false⟩
  | "doublePrecision", [] => some ⟨"double precision", none, false⟩
  | "bytea", [] => some ⟨"bytea", none, false⟩
  | "uuid", [] => some ⟨"uuid", none, false⟩
  | "jsonb", [] => some ⟨"jsonb", none, false⟩
  | _, _ => none

/-! ## Writing what is read -/

/-- The text of an option value. -/
def OptionValue.text : OptionValue → String
  | .quoted token => token
  | .list tokens => "[" ++ ", ".intercalate tokens ++ "]"
  | .word text => text

/-- An option value as the renderer writes it: a quoted text is the quote of a text,
a list has quoted items, and a word has word characters only. -/
def OptionValue.WellFormed : OptionValue → Prop
  | .quoted token => ∃ s, token = Text.quote s
  | .list tokens => tokens ≠ [] ∧ ∀ t ∈ tokens, ∃ s, t = Text.quote s
  | .word text => text.toList.all isWordChar = true

/-- The text of an option entry. -/
def entryText (entry : String × OptionValue) : String := entry.1 ++ ": " ++ entry.2.text

/-- The text of a builder call. -/
def CallRead.text (call : CallRead) : String :=
  call.builder ++ "(" ++ call.column ++
    (if call.options.isEmpty then "" else ", " ++ optionsText (call.options.map entryText)) ++ ")"

/-- A builder call as the renderer writes it: an identifier for the builder and for
each option key, and the column's name quoted. -/
structure CallRead.WellFormed (call : CallRead) : Prop where
  builder : isIdentifier call.builder = true
  column : ∃ s, call.column = Text.quote s
  options : ∀ entry ∈ call.options, isIdentifier entry.1 = true ∧ entry.2.WellFormed

/-- The text of a modifier. -/
def Modifier.text : Modifier → String
  | .typed enumName => ".$type<" ++ enumName ++ ">()"
  | .references t =>
    ".references" ++ referenceArrow ++ t.className ++ "." ++ t.key ++ deleteRuleKey ++ t.onDelete ++ " \x7d)"
  | .primaryKey => ".primaryKey()"
  | .notNull => ".notNull()"
  | .unique => ".unique()"
  | .default text => ".default(" ++ text ++ ")"
  | .defaultFn text => ".$defaultFn(" ++ text ++ ")"

@[simp] theorem Modifier.text_typed (enumName : String) :
    (Modifier.typed enumName).text = ".$type<" ++ enumName ++ ">()" := rfl

@[simp] theorem Modifier.text_references (t : ReferenceRead) : (Modifier.references t).text =
    ".references" ++ referenceArrow ++ t.className ++ "." ++ t.key ++ deleteRuleKey ++ t.onDelete ++ " \x7d)" := rfl

@[simp] theorem Modifier.text_primaryKey : Modifier.primaryKey.text = ".primaryKey()" := rfl

@[simp] theorem Modifier.text_notNull : Modifier.notNull.text = ".notNull()" := rfl

@[simp] theorem Modifier.text_unique : Modifier.unique.text = ".unique()" := rfl

@[simp] theorem Modifier.text_default (text : String) : (Modifier.default text).text = ".default(" ++ text ++ ")" := rfl

@[simp] theorem Modifier.text_defaultFn (text : String) :
    (Modifier.defaultFn text).text = ".$defaultFn(" ++ text ++ ")" := rfl

/-- Whether a modifier sets a default; it then takes the rest of the expression. -/
def Modifier.isDefault : Modifier → Bool
  | .default _ | .defaultFn _ => true
  | _ => false

/-- A modifier as the renderer writes it: the names it writes bare are identifiers,
and a delete rule is quoted. -/
def Modifier.WellFormed : Modifier → Prop
  | .typed enumName => isIdentifier enumName = true
  | .references t => isIdentifier t.className = true ∧ isIdentifier t.key = true ∧ ∃ s, t.onDelete = Text.quote s
  | _ => True

/-- The text of a column expression. -/
def ColumnRead.text (r : ColumnRead) : String := r.call.text ++ String.join (r.modifiers.map Modifier.text)

/-- A column expression as the renderer writes it, with a default modifier last. -/
structure ColumnRead.WellFormed (r : ColumnRead) : Prop where
  call : r.call.WellFormed
  modifiers : ∀ m ∈ r.modifiers, m.WellFormed
  defaultLast : ∀ m ∈ r.modifiers.dropLast, m.isDefault = false

/-! ## Quoted texts read back -/

theorem quotedRest_closing (rest : List Char) : quotedRest ('"' :: rest) = some (['"'], rest) := by
  rw [quotedRest.eq_def]
  simp

/-- An escape takes the character after its backslash along. -/
theorem quotedRest_escape (c : Char) (more : List Char) :
    quotedRest ('\\' :: c :: more) = (quotedRest more).map fun r => ('\\' :: c :: r.1, r.2) := by
  rw [quotedRest.eq_def]
  simp

theorem quotedRest_cons {c : Char} (notQuote : c ≠ '"') (notBackslash : c ≠ '\\') (rest : List Char) :
    quotedRest (c :: rest) = (quotedRest rest).map fun r => (c :: r.1, r.2) := by
  rw [quotedRest.eq_def]
  simp [notQuote, notBackslash]

/-- Characters that are neither a quote nor a backslash are read over one by one. -/
theorem quotedRest_plain {cs : List Char} (plain : ∀ c ∈ cs, c ≠ '"' ∧ c ≠ '\\') (more : List Char) :
    quotedRest (cs ++ more) = (quotedRest more).map fun r => (cs ++ r.1, r.2) := by
  induction cs with
  | nil => simp
  | cons c rest ih =>
    obtain ⟨notQuote, notBackslash⟩ := plain c List.mem_cons_self
    rw [List.cons_append, quotedRest_cons notQuote notBackslash,
      ih fun d later => plain d (List.mem_cons_of_mem c later), Option.map_map]
    rfl

theorem hex4_plain (u : Nat) : ∀ c ∈ Text.hex4 u, c ≠ '"' ∧ c ≠ '\\' := by
  have digit : ∀ n < 16, Text.hexDigit n ≠ '"' ∧ Text.hexDigit n ≠ '\\' := by decide
  simp only [Text.hex4, List.mem_cons, List.not_mem_nil, or_false]
  rintro c (rfl | rfl | rfl | rfl) <;> exact digit _ (Nat.mod_lt _ (by decide))

/-- The escaped form of a piece is read over whole. -/
theorem quotedRest_escapePiece (p : Text.Piece) (more : List Char) :
    quotedRest (Text.escapePiece p ++ more) = (quotedRest more).map fun r => (Text.escapePiece p ++ r.1, r.2) := by
  -- a \u escape: the escape takes u along, then four hex digits are read over
  have unit : ∀ u, quotedRest (('\\' :: 'u' :: Text.hex4 u) ++ more) =
      (quotedRest more).map fun r => (('\\' :: 'u' :: Text.hex4 u) ++ r.1, r.2) := by
    intro u
    rw [List.cons_append, List.cons_append, quotedRest_escape, quotedRest_plain (hex4_plain u), Option.map_map]
    rfl
  cases p with
  | lone u => exact unit u
  | char c =>
    rw [Text.escapePiece]
    rcases Text.escapeChar_shapes c with ⟨d, -, escaped⟩ | ⟨-, escaped⟩ | ⟨notQuote, notBackslash, -, escaped⟩ <;>
      rw [escaped]
    · rw [List.cons_append, List.cons_append, List.nil_append, quotedRest_escape]
      rfl
    · exact unit c.toNat
    · refine quotedRest_plain ?_ more
      simpa using ⟨notQuote, notBackslash⟩

theorem quotedRest_pieces (ps : List Text.Piece) (rest : List Char) :
    quotedRest (ps.flatMap Text.escapePiece ++ '"' :: rest) = some (ps.flatMap Text.escapePiece ++ ['"'], rest) := by
  induction ps with
  | nil => exact quotedRest_closing rest
  | cons p ps ih => simp [List.flatMap_cons, List.append_assoc, quotedRest_escapePiece, ih]

/-- A quoted text is read back whole, whatever follows it. -/
theorem quoted?_quote (s : String) (rest : List Char) :
    quoted? ((Text.quote s).toList ++ rest) = some ((Text.quote s).toList, rest) := by
  simp [Text.quote, quoted?, List.append_assoc, quotedRest_pieces]

/-! ## Number texts are words -/

theorem digitChar_isWordChar {d : Nat} (small : d < 10) : isWordChar (Nat.digitChar d) = true :=
  (by decide : ∀ d < 10, isWordChar (Nat.digitChar d) = true) d small

theorem toDigitsCore_words :
    ∀ (fuel n : Nat) (acc : List Char), acc.all isWordChar → (Nat.toDigitsCore 10 fuel n acc).all isWordChar := by
  intro fuel
  induction fuel with
  | zero =>
    intro n acc words
    simpa [Nat.toDigitsCore] using words
  | succ fuel ih =>
    intro n acc words
    have digit := digitChar_isWordChar (Nat.mod_lt n (by decide : 10 > 0))
    unfold Nat.toDigitsCore
    dsimp only
    split
    · simp [words, digit]
    · exact ih _ _ (by simp [words, digit])

theorem toDigits_words (n : Nat) : (Nat.toDigits 10 n).all isWordChar :=
  toDigitsCore_words _ _ _ rfl

theorem natRepr_words (n : Nat) : (toString n).toList.all isWordChar := by
  change (Nat.repr n).toList.all isWordChar
  rw [Nat.repr, String.toList_ofList]
  exact toDigits_words n

theorem place_words (layout : Decimal.Layout) {ds : List Char} (digits : ds.all isWordChar) (n : Int) :
    (Decimal.place layout ds n).toList.all isWordChar := by
  have allDigits := List.all_eq_true.mp digits
  have zero : isWordChar '0' = true := by decide
  have point : isWordChar '.' = true := by decide
  unfold Decimal.place
  dsimp only
  split
  · simp [digits, zero, List.all_replicate]
  · split
    · simp only [String.toList_ofList, List.all_append, List.all_cons, Bool.and_eq_true, List.all_eq_true]
      exact ⟨fun c taken => allDigits c (List.mem_of_mem_take taken), point,
        fun c dropped => allDigits c (List.mem_of_mem_drop dropped)⟩
    · split
      · simp [digits, zero, point, List.all_replicate]
      · -- the exponent form: a mantissa of the digits, then the sign and the exponent
        simp only [String.toList_append, List.all_append, Bool.and_eq_true]
        refine ⟨⟨⟨?_, by decide⟩, ?_⟩, natRepr_words _⟩
        · split
          · simpa using digits
          · simpa [point] using digits
          · decide
        · split <;> decide

theorem positiveText_words (b : Decimal.Binary) : (Decimal.positiveText b).toList.all isWordChar :=
  place_words _ (toDigits_words _) _

/-- A number is written with word characters only. -/
theorem numberText_words (x : Float) : (Decimal.numberText x).toList.all isWordChar := by
  -- the infinities and the minus sign are words too
  have signed : ∀ b, ("-" ++ Decimal.positiveText b).toList.all isWordChar := by
    intro b
    rw [String.toList_append, List.all_append, positiveText_words b]
    rfl
  unfold Decimal.numberText
  split
  · decide
  split
  · decide
  split
  · split <;> decide
  split
  · -- a negative number: the minus sign, then its magnitude
    split
    · exact signed _
    · decide
  · split
    · exact positiveText_words _
    · decide

/-! ## Reading what is written -/

theorem identifier?_complete {name : String} (identifier : isIdentifier name = true) {c : Char}
    (stop : isIdentChar c = false) (rest : List Char) :
    identifier? (name.toList ++ c :: rest) = some (name, c :: rest) := by
  obtain ⟨taken, dropped⟩ := span_identifier identifier stop rest
  simp [identifier?, taken, dropped, identifier]

/-- Joining `n` pieces with a separator that is not empty makes at least `n - 1`
characters. -/
theorem length_le_intercalate {α : Type} {sep : List α} (separated : sep ≠ []) :
    ∀ pieces : List (List α), pieces.length ≤ (sep.intercalate pieces).length + 1
  | [] => by simp
  | [_] => by simp
  | piece :: next :: more => by
    have later := length_le_intercalate separated (next :: more)
    have long : 1 ≤ sep.length := List.length_pos_iff.mpr separated
    rw [List.intercalate_cons_cons, List.length_append, List.length_append]
    simp only [List.length_cons] at later ⊢
    omega

/-- Items written one after another, separated by `, ` and closed by a text that
does not start with a comma, are read back whole with enough fuel. -/
theorem readSeq_complete {α : Type} {item : List Char → Option (α × List Char)} {print : α → List Char}
    {c : Char} (close : List Char) (notComma : c ≠ ',') {items : List α}
    (reads : ∀ a ∈ items, ∀ rest, (rest.head? = some ',' ∨ rest.head? = some c) →
      item (print a ++ rest) = some (a, rest))
    (nonempty : items ≠ []) (rest : List Char) :
    ∀ fuel, items.length ≤ fuel →
      readSeq item (c :: close) fuel (", ".toList.intercalate (items.map print) ++ c :: close ++ rest) =
        some (items, rest) := by
  induction items with
  | nil => exact absurd rfl nonempty
  | cons a more ih =>
    intro fuel enough
    obtain ⟨fuel, rfl⟩ : ∃ f, fuel = f + 1 := ⟨fuel - 1, by simp at enough; omega⟩
    cases more with
    | nil =>
      -- the last item is followed by the closing text
      have first := reads a List.mem_cons_self (c :: (close ++ rest)) (.inr rfl)
      simp only [List.map_cons, List.map_nil, List.intercalate_singleton]
      simp [readSeq, first, dropPrefix?]
    | cons b others =>
      -- an item followed by a separator, which the closing text does not start
      have later := ih (fun x listed => reads x (List.mem_cons_of_mem a listed)) (List.cons_ne_nil b others) fuel
        (by simp only [List.length_cons] at enough ⊢; omega)
      simp only [List.map_cons, List.intercalate_cons_cons, List.append_assoc] at later ⊢
      generalize (", ".toList.intercalate (print b :: List.map print others) ++ (c :: close ++ rest)) = after
        at later ⊢
      have first := reads a List.mem_cons_self (", ".toList ++ after) (.inl rfl)
      have separated : dropPrefix? (c :: close) (", ".toList ++ after) = none := by
        simp [dropPrefix?, notComma]
      simp only [readSeq, first, Option.bind_some, separated, dropPrefix?_append, later, Option.map_some]

/-- A list of quoted texts is read back whole. -/
theorem readSeq_quotes {tokens : List String} (nonempty : tokens ≠ []) (quotes : ∀ t ∈ tokens, ∃ s, t = Text.quote s)
    (rest : List Char) (fuel : Nat) (enough : tokens.length ≤ fuel) :
    readSeq quoted? [']'] fuel (", ".toList.intercalate (tokens.map String.toList) ++ ']' :: rest) =
      some (tokens.map String.toList, rest) := by
  have reads : ∀ t ∈ tokens.map String.toList, ∀ more, (more.head? = some ',' ∨ more.head? = some ']') →
      quoted? (id t ++ more) = some (t, more) := by
    intro t listed more _
    obtain ⟨token, quoted, rfl⟩ := List.mem_map.mp listed
    obtain ⟨s, rfl⟩ := quotes token quoted
    exact quoted?_quote s more
  have read := readSeq_complete [] (by decide) reads (by simpa using nonempty) rest fuel
    (by simpa using enough)
  simpa using read

/-- A word followed by a comma or a blank starts with neither a quote nor a bracket. -/
theorem head?_word {cs : List Char} (words : cs.all isWordChar = true) {c d : Char} (stop : c = ',' ∨ c = ' ')
    (notWord : isWordChar d = false) (notStop : d ≠ ',' ∧ d ≠ ' ') (rest : List Char) :
    (cs ++ c :: rest).head? ≠ some d := by
  cases cs with
  | nil =>
    simp only [List.nil_append, List.head?_cons, ne_eq, Option.some.injEq]
    rintro rfl
    rcases stop with rfl | rfl
    · exact notStop.1 rfl
    · exact notStop.2 rfl
  | cons e more =>
    simp only [List.cons_append, List.head?_cons, ne_eq, Option.some.injEq]
    rintro rfl
    have word : isWordChar e = true := (List.all_eq_true.mp words) e List.mem_cons_self
    rw [notWord] at word
    cases word

theorem readValue_complete {v : OptionValue} (wf : v.WellFormed) {c : Char} (stop : c = ',' ∨ c = ' ')
    (rest : List Char) : readValue (v.text.toList ++ c :: rest) = some (v, c :: rest) := by
  cases v with
  | quoted token =>
    obtain ⟨s, rfl⟩ := wf
    have opening : ((Text.quote s).toList ++ c :: rest).head? = some '"' := by
      rw [Text.quote_toList]
      rfl
    rw [OptionValue.text, readValue, if_pos opening, quoted?_quote]
    simp
  | list tokens =>
    obtain ⟨nonempty, quotes⟩ := wf
    have written : (OptionValue.list tokens).text.toList ++ c :: rest =
        '[' :: (", ".toList.intercalate (tokens.map String.toList) ++ ']' :: c :: rest) := by
      simp [OptionValue.text, String.toList_intercalate]
    have enough : tokens.length ≤ ((OptionValue.list tokens).text.toList ++ c :: rest).length := by
      have joined := length_le_intercalate (by decide : ", ".toList ≠ []) (tokens.map String.toList)
      rw [written]
      simp only [List.length_map, List.length_cons, List.length_append] at joined ⊢
      omega
    rw [written] at enough
    rw [readValue, written, List.head?_cons, List.tail_cons, if_neg (by decide), if_pos rfl,
      readSeq_quotes nonempty quotes (c :: rest) _ enough]
    simp [Function.comp_def]
  | word text =>
    have words : text.toList.all isWordChar = true := wf
    have stops : isWordChar c = false := by rcases stop with rfl | rfl <;> decide
    have taken : (text.toList ++ c :: rest).takeWhile isWordChar = text.toList := by
      rw [List.takeWhile_append_of_pos (List.all_eq_true.mp words), List.takeWhile_cons_of_neg (by simp [stops]),
        List.append_nil]
    have dropped : (text.toList ++ c :: rest).dropWhile isWordChar = c :: rest := by
      rw [List.dropWhile_append_of_pos (List.all_eq_true.mp words), List.dropWhile_cons_of_neg (by simp [stops])]
    simp only [readValue, OptionValue.text, if_neg (head?_word words stop (d := '"') (by decide) (by decide) rest),
      if_neg (head?_word words stop (d := '[') (by decide) (by decide) rest), taken, dropped, String.ofList_toList]

theorem readEntry_complete {entry : String × OptionValue} (key : isIdentifier entry.1 = true)
    (wf : entry.2.WellFormed) {c : Char} (stop : c = ',' ∨ c = ' ') (rest : List Char) :
    readEntry ((entryText entry).toList ++ c :: rest) = some (entry, c :: rest) := by
  have written : (entryText entry).toList ++ c :: rest =
      entry.1.toList ++ ':' :: (' ' :: (entry.2.text.toList ++ c :: rest)) := by
    simp [entryText]
  rw [written, readEntry, identifier?_complete key (by decide)]
  simp [dropPrefix?, readValue_complete wf stop]

/-- The options of a builder call, as it writes them. -/
def optionsPart (options : List (String × OptionValue)) : String :=
  if options.isEmpty then "" else ", " ++ optionsText (options.map entryText)

theorem readOptions_complete {options : List (String × OptionValue)}
    (wf : ∀ entry ∈ options, isIdentifier entry.1 = true ∧ entry.2.WellFormed) (rest : List Char) :
    readOptions ((optionsPart options).toList ++ ')' :: rest) = some (options, ')' :: rest) := by
  cases options with
  | nil => simp [optionsPart, readOptions, dropPrefix?]
  | cons e es =>
    -- the entries sit between `, \x7b ` and ` \x7d`
    have written : (optionsPart (e :: es)).toList ++ ')' :: rest = ", \x7b ".toList ++
        (", ".toList.intercalate ((e :: es).map fun entry => (entryText entry).toList) ++ ' ' :: ['\x7d'] ++
          ')' :: rest) := by
      simp [optionsPart, optionsText, String.toList_intercalate, List.map_map, Function.comp_def]
    have reads : ∀ entry ∈ e :: es, ∀ more, (more.head? = some ',' ∨ more.head? = some ' ') →
        readEntry ((entryText entry).toList ++ more) = some (entry, more) := by
      intro entry listed more follows
      obtain ⟨key, value⟩ := wf entry listed
      cases more with
      | nil => simp at follows
      | cons d more =>
        have stop : d = ',' ∨ d = ' ' := by simpa using follows
        exact readEntry_complete key value stop more
    have enough : (e :: es).length ≤ (", ".toList.intercalate ((e :: es).map fun entry => (entryText entry).toList) ++
        ' ' :: ['\x7d'] ++ ')' :: rest).length := by
      have joined := length_le_intercalate (by decide : ", ".toList ≠ [])
        ((e :: es).map fun entry => (entryText entry).toList)
      simp only [List.length_map, List.length_append, List.length_cons] at joined ⊢
      omega
    rw [written, readOptions, dropPrefix?_append]
    exact readSeq_complete ['\x7d'] (by decide) reads (List.cons_ne_nil e es) (')' :: rest) _ enough

theorem readCall_complete {call : CallRead} (wf : call.WellFormed) (rest : List Char) :
    readCall (call.text.toList ++ rest) = some (call, rest) := by
  obtain ⟨builder, column, options⟩ := call
  obtain ⟨named, ⟨s, rfl⟩, entries⟩ := wf
  have written : (CallRead.text ⟨builder, Text.quote s, options⟩).toList ++ rest =
      builder.toList ++ '(' :: ((Text.quote s).toList ++ ((optionsPart options).toList ++ ')' :: rest)) := by
    simp [CallRead.text, optionsPart]
  rw [written, readCall, identifier?_complete named (by decide)]
  simp [dropPrefix?, quoted?_quote, readOptions_complete entries]

/-- A modifier that sets no default is read whole, and the reading goes on after it. -/
theorem readModifiers_step {m : Modifier} (wf : m.WellFormed) (kept : m.isDefault = false) (fuel : Nat)
    (rest : List Char) : readModifiers (fuel + 1) (m.text.toList ++ rest) = (readModifiers fuel rest).map (m :: ·) := by
  cases m with
  | typed enumName =>
    have written : (Modifier.typed enumName).text.toList ++ rest =
        '.' :: ("$type".toList ++ '<' :: (enumName.toList ++ '>' :: ("()".toList ++ rest))) := by
      simp
    have named : isIdentifier enumName = true := wf
    rw [written, readModifiers, if_pos rfl, identifier?_complete (by decide) (by decide)]
    simp [readTypeArgument, dropPrefix?, identifier?_complete named (by decide : isIdentChar '>' = false)]
  | references t =>
    obtain ⟨className, key, onDelete⟩ := t
    obtain ⟨tableNamed, keyNamed, s, rfl⟩ : isIdentifier className = true ∧ isIdentifier key = true ∧
        ∃ s, onDelete = Text.quote s := wf
    have written : (Modifier.references ⟨className, key, Text.quote s⟩).text.toList ++ rest =
        '.' :: ("references".toList ++ '(' :: ("(): AnyPgColumn => ".toList ++ (className.toList ++ '.' ::
          (key.toList ++ ',' :: (" \x7b onDelete: ".toList ++ ((Text.quote s).toList ++ " \x7d)".toList ++ rest)))))) := by
      simp [referenceArrow, deleteRuleKey]
    rw [written, readModifiers, if_pos rfl, identifier?_complete (by decide) (by decide)]
    simp [readTarget, referenceArrow, deleteRuleKey, dropPrefix?, identifier?_complete tableNamed (by decide : isIdentChar '.' = false),
      identifier?_complete keyNamed (by decide : isIdentChar ',' = false), quoted?_quote]
  | primaryKey | notNull | unique =>
    -- a flag: its name, then empty parentheses
    simp [readModifiers, identifier?, isIdentifier, isIdentChar, dropPrefix?]
  | default text => cases kept
  | defaultFn text => cases kept

/-- A default modifier takes all that follows as its argument. -/
theorem readModifiers_last {m : Modifier} (isDefault : m.isDefault = true) (fuel : Nat) :
    readModifiers (fuel + 1) m.text.toList = some [m] := by
  cases m with
  | default text =>
    have written : (Modifier.default text).text.toList = '.' :: ("default".toList ++ '(' :: (text.toList ++ [')'])) := by
      simp
    rw [written, readModifiers, if_pos rfl, identifier?_complete (by decide) (by decide)]
    simp [lastArgument, dropPrefix?]
  | defaultFn text =>
    have written : (Modifier.defaultFn text).text.toList =
        '.' :: ("$defaultFn".toList ++ '(' :: (text.toList ++ [')'])) := by
      simp
    rw [written, readModifiers, if_pos rfl, identifier?_complete (by decide) (by decide)]
    simp [lastArgument, dropPrefix?]
  | _ => cases isDefault

theorem Modifier.text_toList (m : Modifier) : ∃ rest, m.text.toList = '.' :: rest := by
  cases m <;> simp

/-- Each modifier writes at least its dot. -/
theorem length_le_modifiers (ms : List Modifier) : ms.length ≤ (String.join (ms.map Modifier.text)).toList.length := by
  induction ms with
  | nil => simp
  | cons m more ih =>
    obtain ⟨rest, dotted⟩ := m.text_toList
    simp only [List.map_cons, String.join_cons, String.toList_append, dotted, List.length_append,
      List.length_cons] at ih ⊢
    omega

/-- Modifiers written one after another, a default last, are read back with enough fuel. -/
theorem readModifiers_complete {ms : List Modifier} (wf : ∀ m ∈ ms, m.WellFormed)
    (defaultLast : ∀ m ∈ ms.dropLast, m.isDefault = false) :
    ∀ fuel, ms.length ≤ fuel → readModifiers fuel (String.join (ms.map Modifier.text)).toList = some ms := by
  induction ms with
  | nil =>
    intro fuel _
    cases fuel <;> rfl
  | cons m more ih =>
    intro fuel enough
    obtain ⟨fuel, rfl⟩ : ∃ f, fuel = f + 1 := ⟨fuel - 1, by simp at enough; omega⟩
    cases isDefault : m.isDefault with
    | true =>
      -- a default ends the expression
      have last : more = [] := by
        by_contra later
        have kept := defaultLast m (by rw [List.dropLast_cons_of_ne_nil later]; exact List.mem_cons_self)
        rw [isDefault] at kept
        cases kept
      subst last
      simpa using readModifiers_last isDefault fuel
    | false =>
      have rest := ih (fun x listed => wf x (List.mem_cons_of_mem m listed)) (fun x listed => ?_) fuel
        (by simpa using enough)
      · rw [List.map_cons, String.join_cons, String.toList_append, readModifiers_step (wf m List.mem_cons_self) isDefault,
          rest]
        rfl
      · -- what stands before the last of the rest stands before the last of the whole
        have later : more ≠ [] := by
          rintro rfl
          simp at listed
        exact defaultLast x (by rw [List.dropLast_cons_of_ne_nil later]; exact List.mem_cons_of_mem m listed)

theorem readColumn_complete {r : ColumnRead} (wf : r.WellFormed) : readColumn r.text = some r := by
  obtain ⟨call, modifiers⟩ := r
  obtain ⟨callWritten, modifiersWritten, defaultLast⟩ := wf
  unfold readColumn ColumnRead.text
  rw [String.toList_append, readCall_complete callWritten, Option.bind_some]
  dsimp only
  rw [readModifiers_complete modifiersWritten defaultLast _ (length_le_modifiers modifiers)]
  rfl

end Code

end ModelTables