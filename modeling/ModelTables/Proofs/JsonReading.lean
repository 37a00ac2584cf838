import ModelTables.Value.Json
import ModelTables.Proofs.Units

/-! # Reading JSON text back

`Value.jsonText?` writes a value as JSON text and `Value.parseJson?` reads JSON text.
Reading gives back what writing wrote, for the plain JSON data the library handles
(`Value.ReadsBack`): texts and member keys joined (`Text.Joined`), the members of each
object in iteration order, and each number's text reading back as that number.  The
last condition is not automatic: negative zero is written `0`, which reads back as zero.

The reading is followed character by character:

* `readString_quoted`: a joined text, quoted, reads back whatever follows it;
* `TextReads`: the JSON text of a value reads back from any place where a comma, a
  closing bracket or brace, or the end follows it, given as much nesting fuel as the
  text has characters; it holds of every value that reads back (`jsonText?_reads`);
* `parseJson?_jsonText`: the JSON text of such a value is read as the value.
-/

namespace ModelTables

namespace JsonReader

/-- What may follow a value in JSON text written without blanks: a comma, a closing
bracket or brace, or nothing. -/
def Delimited (rest : List Char) : Prop := ∀ c ∈ rest.head?, c = ',' ∨ c = ']' ∨ c = '}'

theorem delimited_nil : Delimited [] := fun _ none => by cases none

theorem delimited_cons {c : Char} (closes : c = ',' ∨ c = ']' ∨ c = '}') (rest : List Char) :
    Delimited (c :: rest) := by
  intro d head
  cases head
  exact closes

/-- Whether a character is a JSON blank, one that the reader skips between tokens. -/
def isBlank (c : Char) : Bool := c == ' ' || c == '\t' || c == '\n' || c == '\r'

theorem skipBlanks_cons {c : Char} (solid : isBlank c = false) (rest : List Char) :
    skipBlanks (c :: rest) = c :: rest := by
  simp only [isBlank] at solid
  simp [skipBlanks, solid]

/-! ## Hex digits -/

theorem hexValue?_hexDigit : ∀ n < 16, hexValue? (Text.hexDigit n) = some n := by decide

theorem hex4?_hex4 {n : Nat} (small : n < 0x10000) (rest : List Char) :
    hex4? (Text.hex4 n ++ rest) = some (n, rest) := by
  have digit : ∀ k, hexValue? (Text.hexDigit (k % 16)) = some (k % 16) :=
    fun k => hexValue?_hexDigit _ (Nat.mod_lt _ (by decide))
  simp only [Text.hex4, List.cons_append, List.nil_append, hex4?, digit, Option.bind_eq_bind,
    Option.bind_some, Option.some.injEq, Prod.mk.injEq, and_true]
  omega

/-! ## Quoted texts -/

/-- The letter of a short escape is not `u`, and the reader turns the escape back into
its character. -/
theorem shortEscape_reads {c e : Char} (short : (c, e) ∈ Text.shortEscapes) :
    e ≠ 'u' ∧ ∀ fuel rest acc, readStringFuel (fuel + 1) ('\\' :: e :: rest) acc =
      readStringFuel fuel rest (c :: acc) := by
  simp only [Text.shortEscapes, List.mem_cons, Prod.mk.injEq, List.not_mem_nil, or_false] at short
  rcases short with ⟨rfl, rfl⟩ | ⟨rfl, rfl⟩ | ⟨rfl, rfl⟩ | ⟨rfl, rfl⟩ | ⟨rfl, rfl⟩ | ⟨rfl, rfl⟩ | ⟨rfl, rfl⟩ <;>
    exact ⟨by decide, fun _ _ _ => rfl⟩

/-- A `\u` escape carries four hex digits, and those of a low surrogate unit only for a
character that holds a lone low unit. -/
theorem escapePiece_unicode {d : Char} {more r : List Char}
    (opens : Text.escapePiece (Text.charPiece d) ++ more = '\\' :: 'u' :: r) :
    ∃ lo r', hex4? r = some (lo, r') ∧ (0xDC00 ≤ lo ∧ lo < 0xE000 → Text.holdsLoneLow d = true) := by
  rcases lone : Text.loneUnit? d with _ | u
  · have piece : Text.charPiece d = .char d := by simp [Text.charPiece, lone]
    rw [piece, Text.escapePiece] at opens
    rcases Text.escapeChar_shapes d with ⟨e, short, escape⟩ | ⟨control, escape⟩ | ⟨-, backslash, -, escape⟩
    · simp only [escape, List.cons_append, List.nil_append, List.cons.injEq] at opens
      exact absurd opens.2.1 (shortEscape_reads short).1
    · -- a control character: its code, far below the surrogates
      simp only [escape, List.cons_append, List.cons.injEq, true_and] at opens
      subst opens
      exact ⟨d.toNat, more, hex4?_hex4 (by omega) more, fun low => absurd low.1 (by omega)⟩
    · simp only [escape, List.singleton_append, List.cons.injEq] at opens
      exact absurd opens.1 backslash
  · obtain ⟨held, -, below⟩ := Text.loneUnit?_eq_some lone
    have piece : Text.charPiece d = .lone u := by simp [Text.charPiece, lone]
    rw [piece, Text.escapePiece] at opens
    simp only [List.cons_append, List.cons.injEq, true_and] at opens
    subst opens
    refine ⟨u, more, hex4?_hex4 (by unfold Text.loneOffset at held; omega) more, fun low => ?_⟩
    simp [Text.holdsLoneLow, lone, Text.isLowSurrogate, low.1, low.2]

/-- The character a unit that is no surrogate stands for. -/
theorem unitChar_toNat {c : Char} (small : c.toNat < 0xD800) : Text.unitChar c.toNat = c := by
  have plain : Text.isSurrogate c.toNat = false := by
    simp only [Text.isSurrogate, Bool.and_eq_false_iff, decide_eq_false_iff_not]
    omega
  simp [Text.unitChar, plain, Char.ofNat_toNat]

/-- One character's escape, read inside a string, gives the character back; a lone high
unit needs that the escape of a low unit does not follow it, or the two would pair. -/
theorem readStringFuel_escapePiece (c : Char) (fuel : Nat) (next acc : List Char)
    (apart : Text.holdsLoneHigh c = true → ∀ r, next = '\\' :: 'u' :: r →
      ∃ lo r', hex4? r = some (lo, r') ∧ ¬ (0xDC00 ≤ lo ∧ lo < 0xE000)) :
    readStringFuel (fuel + 1) (Text.escapePiece (Text.charPiece c) ++ next) acc =
      readStringFuel fuel next (c :: acc) := by
  rcases lone : Text.loneUnit? c with _ | u
  · have piece : Text.charPiece c = .char c := by simp [Text.charPiece, lone]
    rw [piece, Text.escapePiece]
    rcases Text.escapeChar_shapes c with ⟨e, short, escape⟩ | ⟨control, escape⟩ |
      ⟨quote, backslash, printable, escape⟩
    · rw [escape, List.cons_append, List.cons_append, List.nil_append, (shortEscape_reads short).2]
    · rw [escape, List.cons_append, List.cons_append, readStringFuel.eq_12, hex4?_hex4 (by omega)]
      simp only [show ¬ (0xD800 ≤ c.toNat ∧ c.toNat < 0xDC00) by omega, if_false]
      rw [unitChar_toNat (by omega)]
    · rw [escape, List.singleton_append, readStringFuel.eq_14 _ _ _ _ quote backslash,
        if_neg (by omega)]
  · -- a lone surrogate unit, written as its `\u` escape
    obtain ⟨held, above, below⟩ := Text.loneUnit?_eq_some lone
    have piece : Text.charPiece c = .lone u := by simp [Text.charPiece, lone]
    have unit : Text.unitChar u = c := by
      have surrogate : Text.isSurrogate u = true := by
        simp only [Text.isSurrogate, Bool.and_eq_true, decide_eq_true_eq]
        unfold Text.loneOffset at held
        omega
      have back : u + Text.loneOffset = c.toNat := by
        unfold Text.loneOffset at held ⊢
        omega
      simp only [Text.unitChar, surrogate, if_true, Text.loneChar, back, Char.ofNat_toNat]
    rw [piece, Text.escapePiece, List.cons_append, List.cons_append, readStringFuel.eq_12,
      hex4?_hex4 (by unfold Text.loneOffset at held; omega)]
    simp only [unit]
    by_cases high : 0xD800 ≤ u ∧ u < 0xDC00
    · have holds : Text.holdsLoneHigh c = true := by
        simp [Text.holdsLoneHigh, lone, Text.isHighSurrogate, high.1, high.2]
      rw [if_pos high]
      split
      · rename_i r3
        obtain ⟨lo, r4, hex, notLow⟩ := apart holds r3 rfl
        simp only [hex, if_neg notLow]
      · rfl
    · rw [if_neg high]

/-- Every piece is escaped by at least one character. -/
theorem length_le_flatMap_escapePiece :
    ∀ pieces : List Text.Piece, pieces.length ≤ (pieces.flatMap Text.escapePiece).length
  | [] => Nat.le_refl 0
  | piece :: pieces => by
    have nonempty : 0 < (Text.escapePiece piece).length := by
      cases piece with
      | char c =>
        rcases Text.escapeChar_shapes c with ⟨_, _, escape⟩ | ⟨_, escape⟩ | ⟨_, _, _, escape⟩ <;>
          simp [Text.escapePiece, escape]
      | lone u => simp [Text.escapePiece]
    have rest := length_le_flatMap_escapePiece pieces
    simp only [List.flatMap_cons, List.length_append, List.length_cons]
    omega

/-- The escapes of a joined run of characters, closed by a quote, read back as the run;
the reader's fuel only has to outlast the run. -/
theorem readStringFuel_escaped (rest : List Char) :
    ∀ {cs : List Char}, cs.IsChain (fun a b => ¬ (Text.holdsLoneHigh a = true ∧ Text.holdsLoneLow b = true)) →
      ∀ (fuel : Nat) (acc : List Char), cs.length < fuel →
        readStringFuel fuel ((cs.map Text.charPiece).flatMap Text.escapePiece ++ '"' :: rest) acc =
          .ok (String.ofList (acc.reverse ++ cs), rest)
  | [], _, fuel + 1, acc, _ => by
    simp [readStringFuel.eq_3]
  | c :: cs, chained, fuel + 1, acc, fits => by
    have tail : cs.IsChain _ := chained.tail
    -- what follows `c` is the escape of the next character, or the closing quote
    have apart : Text.holdsLoneHigh c = true → ∀ r,
        (cs.map Text.charPiece).flatMap Text.escapePiece ++ '"' :: rest = '\\' :: 'u' :: r →
          ∃ lo r', hex4? r = some (lo, r') ∧ ¬ (0xDC00 ≤ lo ∧ lo < 0xE000) := by
      intro high r opens
      cases cs with
      | nil => simp at opens
      | cons d ds =>
        rw [List.map_cons, List.flatMap_cons, List.append_assoc] at opens
        obtain ⟨lo, r', hex, low⟩ := escapePiece_unicode opens
        refine ⟨lo, r', hex, fun isLow => ?_⟩
        exact (List.isChain_cons_cons.mp chained).1 ⟨high, low isLow⟩
    rw [List.map_cons, List.flatMap_cons, List.append_assoc,
      readStringFuel_escapePiece c fuel _ acc apart,
      readStringFuel_escaped rest tail fuel (c :: acc) (by simp at fits; omega)]
    simp

/-- The pieces of a joined text are its characters. -/
theorem piecesOf_of_joined {s : String} (joined : Text.Joined s) :
    Text.piecesOf s = s.toList.map Text.charPiece :=
  Text.piecesOfUnits_flatMap joined

/-- A joined text, quoted, reads back as itself, whatever follows the closing quote. -/
theorem readString_quoted {s : String} (joined : Text.Joined s) (rest : List Char) :
    readString ((Text.piecesOf s).flatMap Text.escapePiece ++ '"' :: rest) = .ok (s, rest) := by
  have longer := length_le_flatMap_escapePiece (s.toList.map Text.charPiece)
  rw [piecesOf_of_joined joined, readString,
    readStringFuel_escaped rest joined _ [] (by simp at longer ⊢; omega)]
  simp

/-! ## Numbers -/

/-- The number text of `x` reads back as `x` wherever it ends a value. -/
def NumberReadsBack (x : Float) : Prop :=
  ∀ rest, Delimited rest → readNumber ((Decimal.numberText x).toList ++ rest) = .ok (x, rest)

/-- A number that is read starts with a minus sign or a digit. -/
theorem readNumber_head {cs : List Char} {x : Float} {r : List Char} (reads : readNumber cs = .ok (x, r)) :
    ∃ c rest, cs = c :: rest ∧ (c = '-' ∨ c.isDigit = true) := by
  rcases cs with _ | ⟨c, rest⟩
  · cases reads
  · refine ⟨c, rest, rfl, ?_⟩
    by_cases minus : c = '-'
    · exact .inl minus
    · right
      cases digit : c.isDigit
      · -- no digit at the head: the reader refuses at once
        unfold readNumber at reads
        split at reads
        rename_i negative afterSign sign
        split at sign
        · rename_i _ same
          simp only [List.cons.injEq] at same
          exact absurd same.1 minus
        · simp only [Prod.mk.injEq] at sign
          obtain ⟨-, rfl⟩ := sign
          simp only [List.takeWhile_cons, digit] at reads
          cases reads
      · rfl

/-- A number reading is settled by the number it gives and the input it leaves. -/
theorem readNumber_eq_ok {cs : List Char} {x : Float} {rest : List Char}
    (value : (readNumber cs).map Prod.fst = .ok x) (remainder : (readNumber cs).map Prod.snd = .ok rest) :
    readNumber cs = .ok (x, rest) := by
  cases reading : readNumber cs with
  | error e =>
    rw [reading] at value
    cases value
  | ok read =>
    rw [reading] at value remainder
    cases value
    cases remainder
    rfl

/-- Only a finite number's text reads back: `NaN` and the infinities are written as words. -/
theorem NumberReadsBack.finite {x : Float} (back : NumberReadsBack x) :
    x.isNaN = false ∧ x.isInf = false := by
  have reads := back [] delimited_nil
  rw [List.append_nil] at reads
  unfold Decimal.numberText at reads
  by_cases nan : x.isNaN = true
  · rw [if_pos nan] at reads
    cases reads
  · by_cases zero : (x == 0) = true
    · -- zero is written `0`, which reads back as zero, a finite number
      rw [if_neg nan, if_pos zero] at reads
      have zeroReads : readNumber "0".toList = .ok (0, []) := rfl
      rw [zeroReads] at reads
      cases reads
      exact ⟨Bool.eq_false_iff.mpr nan, by decide +kernel⟩
    · by_cases inf : x.isInf = true
      · rw [if_neg nan, if_neg zero, if_pos inf] at reads
        split_ifs at reads <;> cases reads
      · exact ⟨Bool.eq_false_iff.mpr nan, Bool.eq_false_iff.mpr inf⟩

/-! ## Values -/

/-- The JSON text `text` of `v` reads back as `v`: it starts with a character that is
neither a blank nor a closing bracket, and given as much fuel as it has characters the
reader reads `v` off it wherever a delimiter follows. -/
structure TextReads (v : Value) (text : List Char) : Prop where
  leads : ∃ c rest, text = c :: rest ∧ isBlank c = false ∧ c ≠ ']'
  reads : ∀ fuel rest, text.length ≤ fuel → Delimited rest →
    readValue fuel (text ++ rest) = .ok (v, rest)

theorem TextReads.skipBlanks_eq {v : Value} {text : List Char} (written : TextReads v text)
    (rest : List Char) : skipBlanks (text ++ rest) = text ++ rest := by
  obtain ⟨c, cs, rfl, solid, -⟩ := written.leads
  exact skipBlanks_cons solid _

theorem TextReads.not_close {v : Value} {text : List Char} (written : TextReads v text)
    (rest r : List Char) : text ++ rest ≠ ']' :: r := by
  obtain ⟨c, cs, rfl, -, notClose⟩ := written.leads
  simp [notClose]

theorem TextReads.null : TextReads .null "null".toList := by
  refine ⟨⟨'n', _, rfl, rfl, by decide⟩, fun fuel rest fits _ => ?_⟩
  obtain ⟨fuel, rfl⟩ : ∃ f, fuel = f + 1 := ⟨fuel - 1, by simp at fits; omega⟩
  rfl

theorem TextReads.bool (b : Bool) : TextReads (.bool b) (if b then "true" else "false").toList := by
  cases b with
  | false =>
    refine ⟨⟨'f', _, rfl, rfl, by decide⟩, fun fuel rest fits _ => ?_⟩
    obtain ⟨fuel, rfl⟩ : ∃ f, fuel = f + 1 := ⟨fuel - 1, by simp at fits; omega⟩
    rfl
  | true =>
    refine ⟨⟨'t', _, rfl, rfl, by decide⟩, fun fuel rest fits _ => ?_⟩
    obtain ⟨fuel, rfl⟩ : ∃ f, fuel = f + 1 := ⟨fuel - 1, by simp at fits; omega⟩
    rfl

theorem TextReads.string {s : String} (joined : Text.Joined s) :
    TextReads (.string s) (Text.quote s).toList := by
  refine ⟨⟨'"', _, Text.quote_toList s, rfl, by decide⟩, fun fuel rest fits _ => ?_⟩
  obtain ⟨fuel, rfl⟩ : ∃ f, fuel = f + 1 := ⟨fuel - 1, by simp [Text.quote_toList] at fits; omega⟩
  rw [Text.quote_toList, List.cons_append, List.append_assoc, List.singleton_append, readValue.eq_2,
    skipBlanks_cons rfl]
  simp only [readString_quoted joined rest]
  rfl

theorem startsWith_cons_of_ne {c d : Char} (apart : c ≠ d) (word cs : List Char) :
    startsWith (d :: word) (c :: cs) = false := by
  simp [startsWith, apart]

/-- The text of a number that reads back, read where a value is expected. -/
theorem TextReads.number {x : Float} (back : NumberReadsBack x) :
    TextReads (.number x) (Decimal.numberText x).toList := by
  obtain ⟨c, cs, text, sign⟩ := readNumber_head (back [] delimited_nil)
  rw [List.append_nil] at text
  -- a minus sign or a digit is no blank and opens no other kind of value
  have solid : isBlank c = false ∧ c ≠ ']' ∧ c ≠ '\x7b' ∧ c ≠ '[' ∧ c ≠ '"' ∧ c ≠ 't' ∧ c ≠ 'f' ∧
      c ≠ 'n' := by
    rcases sign with rfl | digit
    · decide
    · have range := Char.isDigit_iff_toNat.mp digit
      have apart : ∀ d : Char, (d.toNat < '0'.toNat ∨ '9'.toNat < d.toNat) → c ≠ d := by
        intro d out same
        subst same
        omega
      have blank : isBlank c = false := by
        simp [isBlank, apart ' ' (by decide), apart '\t' (by decide), apart '\n' (by decide),
          apart '\r' (by decide)]
      exact ⟨blank, apart _ (by decide), apart _ (by decide), apart _ (by decide), apart _ (by decide),
        apart _ (by decide), apart _ (by decide), apart _ (by decide)⟩
  obtain ⟨blank, close, brace, bracket, quote, t, f, n⟩ := solid
  refine ⟨⟨c, cs, text, blank, close⟩, fun fuel rest fits delimited => ?_⟩
  obtain ⟨fuel, rfl⟩ : ∃ f, fuel = f + 1 := ⟨fuel - 1, by simp [text] at fits; omega⟩
  have reads := back rest delimited
  rw [text] at reads ⊢
  rw [List.cons_append, readValue.eq_2, skipBlanks_cons blank]
  split
  · rename_i same; exact absurd (List.cons.inj same).1 brace
  · rename_i same; exact absurd (List.cons.inj same).1 bracket
  · rename_i same; exact absurd (List.cons.inj same).1 quote
  · rename_i d r _ _ _ same
    obtain ⟨rfl, rfl⟩ := List.cons.inj same
    have number : (c == '-' || c.isDigit) = true := by
      rcases sign with rfl | digit
      · rfl
      · simp [digit]
    rw [startsWith_cons_of_ne t, startsWith_cons_of_ne f, startsWith_cons_of_ne n]
    simp only [Bool.false_eq_true, if_false, number, if_true]
    rw [← List.cons_append, reads]
    rfl
  · rename_i same; cases same

/-- A comma-separated list starts with its first part. -/
theorem intercalate_cons_eq_append (sep l : List Char) (zs : List (List Char)) :
    ∃ tail, sep.intercalate (l :: zs) = l ++ tail := by
  cases zs with
  | nil => exact ⟨[], by simp⟩
  | cons l' zs => exact ⟨sep ++ sep.intercalate (l' :: zs), by rw [List.intercalate_cons_cons, List.append_assoc]⟩

/-- The reader skips no blank before a comma-separated list whose first part starts
with no blank. -/
theorem skipBlanks_intercalate {l : List Char} (solid : ∀ after, skipBlanks (l ++ after) = l ++ after)
    (zs : List (List Char)) (after : List Char) :
    skipBlanks ([','].intercalate (l :: zs) ++ after) = [','].intercalate (l :: zs) ++ after := by
  obtain ⟨tail, starts⟩ := intercalate_cons_eq_append [','] l zs
  rw [starts, List.append_assoc, solid]

theorem itemsText_cons {v : Value} {text : String} (written : v.jsonText? = some text)
    (more : List Value) : Value.itemsText (v :: more) = text :: Value.itemsText more := by
  simp [Value.itemsText, written]

/-- Array items, written with commas between them and closed by `]`, read back after the
items read before them. -/
theorem readItems_written (rest : List Char) (v : Value) (more : List Value) :
    ∀ (acc : List Value) (first : Bool) (fuel : Nat),
      (∀ w ∈ v :: more, ∃ text, w.jsonText? = some text ∧ TextReads w text.toList) →
      ([','].intercalate ((Value.itemsText (v :: more)).map String.toList)).length < fuel →
      readItems fuel ([','].intercalate ((Value.itemsText (v :: more)).map String.toList) ++ ']' :: rest)
          acc first = .ok (.array (acc.reverse ++ v :: more), rest) := by
  induction more generalizing v with
  | nil =>
    intro acc first fuel each fits
    obtain ⟨text, written, reads⟩ := each v List.mem_cons_self
    rw [itemsText_cons written, Value.itemsText, List.map_singleton, List.intercalate_singleton]
      at fits ⊢
    obtain ⟨fuel, rfl⟩ : ∃ f, fuel = f + 1 := ⟨fuel - 1, by omega⟩
    rw [readItems.eq_3 _ _ _ _ (fun r same _ => reads.not_close _ _ same),
      reads.reads fuel _ (by omega) (delimited_cons (by simp) rest)]
    simp [bind, Except.bind, skipBlanks]
  | cons w more ih =>
    intro acc first fuel each fits
    obtain ⟨text, written, reads⟩ := each v List.mem_cons_self
    obtain ⟨next, writtenNext, readsNext⟩ := each w (List.mem_cons_of_mem _ List.mem_cons_self)
    rw [itemsText_cons written, List.map_cons,
      List.intercalate_cons_of_ne_nil (by simp [itemsText_cons writtenNext])] at fits ⊢
    simp only [List.length_append, List.length_singleton] at fits
    obtain ⟨fuel, rfl⟩ : ∃ f, fuel = f + 1 := ⟨fuel - 1, by omega⟩
    -- the next item's text starts the list that follows the comma
    have skipped := skipBlanks_intercalate readsNext.skipBlanks_eq
      ((Value.itemsText more).map String.toList) (']' :: rest)
    rw [← List.map_cons, ← itemsText_cons writtenNext] at skipped
    rw [List.append_assoc, List.append_assoc, List.singleton_append,
      readItems.eq_3 _ _ _ _ (fun r same _ => reads.not_close _ _ same),
      reads.reads fuel _ (by omega) (delimited_cons (by simp) _)]
    simp only [bind, Except.bind, skipBlanks_cons (show isBlank ',' = false from rfl), skipped]
    rw [ih w (v :: acc) false fuel (fun u mem => each u (List.mem_cons_of_mem _ mem)) (by omega)]
    simp

theorem readValue_bracket (fuel : Nat) (cs : List Char) :
    readValue (fuel + 1) ('[' :: cs) = readItems fuel (skipBlanks cs) [] true := by
  rw [readValue.eq_2]
  rfl

/-- The text of an array whose items read back, read where a value is expected. -/
theorem TextReads.array {items : List Value}
    (each : ∀ v ∈ items, ∃ text, v.jsonText? = some text ∧ TextReads v text.toList) :
    TextReads (.array items) ("[" ++ ",".intercalate (Value.itemsText items) ++ "]").toList := by
  have chars : ("[" ++ ",".intercalate (Value.itemsText items) ++ "]").toList =
      '[' :: ([','].intercalate ((Value.itemsText items).map String.toList) ++ [']']) := by
    rw [String.toList_append, String.toList_append, String.toList_intercalate]
    rfl
  rw [chars]
  refine ⟨⟨'[', _, rfl, rfl, by decide⟩, fun fuel rest fits _ => ?_⟩
  obtain ⟨fuel, rfl⟩ : ∃ f, fuel = f + 1 := ⟨fuel - 1, by simp at fits; omega⟩
  rw [List.cons_append, List.append_assoc, List.singleton_append, readValue_bracket]
  cases items with
  | nil =>
    rw [Value.itemsText, List.map_nil, List.intercalate_nil, List.nil_append, skipBlanks_cons rfl,
      readItems.eq_1]
    rfl
  | cons v more =>
    obtain ⟨text, written, reads⟩ := each v List.mem_cons_self
    have skipped := skipBlanks_intercalate reads.skipBlanks_eq
      ((Value.itemsText more).map String.toList) (']' :: rest)
    rw [← List.map_cons, ← itemsText_cons written] at skipped
    rw [skipped, readItems_written rest v more [] true fuel each (by simp at fits; omega)]
    rfl

theorem membersText_cons {v : Value} {text : String} (written : v.jsonText? = some text)
    (key : String) (more : Fields) :
    Value.membersText ((key, v) :: more) = (Text.quote key ++ ":" ++ text) :: Value.membersText more := by
  simp [Value.membersText, written]

theorem member_toList (key text : String) :
    (Text.quote key ++ ":" ++ text).toList =
      '"' :: ((Text.piecesOf key).flatMap Text.escapePiece ++ '"' :: ':' :: text.toList) := by
  rw [String.toList_append, String.toList_append, Text.quote_toList]
  simp

theorem member_skipBlanks (key text : String) (after : List Char) :
    skipBlanks ((Text.quote key ++ ":" ++ text).toList ++ after) = (Text.quote key ++ ":" ++ text).toList ++ after := by
  rw [member_toList, List.cons_append]
  exact skipBlanks_cons rfl _

/-- One member, key and value, read up to the comma or the closing brace after it. -/
theorem readMembers_member {key : String} {v : Value} {text : String} (joined : Text.Joined key)
    (reads : TextReads v text.toList) {fuel : Nat} (fits : text.toList.length ≤ fuel)
    (acc : Fields) (first : Bool) :
    (∀ r, readMembers (fuel + 1) ((Text.quote key ++ ":" ++ text).toList ++ ',' :: r) acc first =
      readMembers fuel (skipBlanks r) (acc.set key v) false) ∧
    (∀ r, readMembers (fuel + 1) ((Text.quote key ++ ":" ++ text).toList ++ '\x7d' :: r) acc first =
      .ok (.object (acc.set key v), r)) := by
  -- the key, the colon and the value are read alike before either delimiter
  have opening : ∀ after, (Text.quote key ++ ":" ++ text).toList ++ after =
      '"' :: ((Text.piecesOf key).flatMap Text.escapePiece ++ '"' :: ':' :: (text.toList ++ after)) := by
    intro after
    simp only [member_toList, List.cons_append, List.append_assoc]
  refine ⟨fun r => ?_, fun r => ?_⟩
  · rw [opening, readMembers.eq_3, readString_quoted joined]
    simp only [bind, Except.bind, skipBlanks_cons (show isBlank ':' = false from rfl),
      reads.reads fuel _ fits (delimited_cons (.inl rfl) r)]
    rfl
  · rw [opening, readMembers.eq_3, readString_quoted joined]
    simp only [bind, Except.bind, skipBlanks_cons (show isBlank ':' = false from rfl),
      reads.reads fuel _ fits (delimited_cons (.inr (.inr rfl)) r)]
    rfl

/-- Object members, written with commas between them and closed by `}`, read back, each
set in turn on the members read before them. -/
theorem readMembers_written (rest : List Char) (field : String × Value) (more : Fields) :
    ∀ (acc : Fields) (first : Bool) (fuel : Nat),
      (∀ f ∈ field :: more, Text.Joined f.1 ∧
        ∃ text, f.2.jsonText? = some text ∧ TextReads f.2 text.toList) →
      ([','].intercalate ((Value.membersText (field :: more)).map String.toList)).length < fuel →
      readMembers fuel
          ([','].intercalate ((Value.membersText (field :: more)).map String.toList) ++ '\x7d' :: rest)
          acc first =
        .ok (.object ((field :: more).foldl (fun acc entry => Fields.set acc entry.1 entry.2) acc), rest) := by
  induction more generalizing field with
  | nil =>
    intro acc first fuel each fits
    obtain ⟨key, v⟩ := field
    obtain ⟨joined, text, written, reads⟩ := each (key, v) List.mem_cons_self
    rw [membersText_cons written, Value.membersText, List.map_singleton, List.intercalate_singleton]
      at fits ⊢
    obtain ⟨fuel, rfl⟩ : ∃ f, fuel = f + 1 := ⟨fuel - 1, by omega⟩
    rw [(readMembers_member joined reads (by simp at fits; omega) acc first).2 rest]
    rfl
  | cons next more ih =>
    intro acc first fuel each fits
    obtain ⟨key, v⟩ := field
    obtain ⟨joined, text, written, reads⟩ := each (key, v) List.mem_cons_self
    obtain ⟨nextKey, w⟩ := next
    obtain ⟨-, nextText, writtenNext, -⟩ := each (nextKey, w) (List.mem_cons_of_mem _ List.mem_cons_self)
    rw [membersText_cons written, List.map_cons,
      List.intercalate_cons_of_ne_nil (by simp [membersText_cons writtenNext])] at fits ⊢
    simp only [List.length_append, List.length_singleton] at fits
    obtain ⟨fuel, rfl⟩ : ∃ f, fuel = f + 1 := ⟨fuel - 1, by omega⟩
    -- the next member opens with the quote of its key
    have skipped := skipBlanks_intercalate (member_skipBlanks nextKey nextText)
      ((Value.membersText more).map String.toList) ('\x7d' :: rest)
    rw [← List.map_cons, ← membersText_cons writtenNext] at skipped
    rw [List.append_assoc, List.append_assoc, List.singleton_append,
      (readMembers_member joined reads (by simp at fits; omega) acc first).1, skipped,
      ih (nextKey, w) (acc.set key v) false fuel (fun f mem => each f (List.mem_cons_of_mem _ mem))
        (by omega)]
    rfl

theorem readValue_brace (fuel : Nat) (cs : List Char) :
    readValue (fuel + 1) ('\x7b' :: cs) = readMembers fuel (skipBlanks cs) [] true := by
  rw [readValue.eq_2]
  rfl

/-- The text of an object in iteration order whose keys are joined and whose values read
back, read where a value is expected. -/
theorem TextReads.object {fields : Fields} (ordered : Fields.ofPairs fields = fields)
    (each : ∀ f ∈ fields, Text.Joined f.1 ∧ ∃ text, f.2.jsonText? = some text ∧ TextReads f.2 text.toList) :
    TextReads (.object fields) ("\x7b" ++ ",".intercalate (Value.membersText fields) ++ "\x7d").toList := by
  have chars : ("\x7b" ++ ",".intercalate (Value.membersText fields) ++ "\x7d").toList =
      '\x7b' :: ([','].intercalate ((Value.membersText fields).map String.toList) ++ ['\x7d']) := by
    rw [String.toList_append, String.toList_append, String.toList_intercalate]
    rfl
  rw [chars]
  refine ⟨⟨'\x7b', _, rfl, rfl, by decide⟩, fun fuel rest fits _ => ?_⟩
  obtain ⟨fuel, rfl⟩ : ∃ f, fuel = f + 1 := ⟨fuel - 1, by simp at fits; omega⟩
  rw [List.cons_append, List.append_assoc, List.singleton_append, readValue_brace]
  cases fields with
  | nil =>
    rw [Value.membersText, List.map_nil, List.intercalate_nil, List.nil_append, skipBlanks_cons rfl,
      readMembers.eq_1]
  | cons field more =>
    obtain ⟨key, v⟩ := field
    obtain ⟨-, text, written, -⟩ := each (key, v) List.mem_cons_self
    have skipped := skipBlanks_intercalate (member_skipBlanks key text)
      ((Value.membersText more).map String.toList) ('\x7d' :: rest)
    rw [← List.map_cons, ← membersText_cons written] at skipped
    rw [skipped, readMembers_written rest (key, v) more [] true fuel each (by simp at fits; omega)]
    -- setting the members in turn on an empty object gives them back in their order
    show Except.ok (Value.object (Fields.ofPairs ((key, v) :: more)), rest) = _
    rw [ordered]

end JsonReader

namespace Value

/-- Plain JSON data that its JSON text reads back as: every text and member key is
joined, the members of every object are in iteration order (setting them in turn on an
empty object gives them back), and every number's text reads back as the number. -/
inductive ReadsBack : Value → Prop
  | null : ReadsBack .null
  | string {s : String} (joined : Text.Joined s) : ReadsBack (.string s)
  | bool (b : Bool) : ReadsBack (.bool b)
  | number {x : Float} (back : JsonReader.NumberReadsBack x) : ReadsBack (.number x)
  | array {items : List Value} (each : ∀ v ∈ items, ReadsBack v) : ReadsBack (.array items)
  | object {fields : Fields} (keys : ∀ field ∈ fields, Text.Joined field.1)
      (ordered : Fields.ofPairs fields = fields) (each : ∀ field ∈ fields, ReadsBack field.2) :
      ReadsBack (.object fields)

/-- A value that reads back has a JSON text, and that text reads back as the value. -/
theorem jsonText?_reads {v : Value} (back : v.ReadsBack) :
    ∃ text, v.jsonText? = some text ∧ JsonReader.TextReads v text.toList := by
  induction back with
  | null => exact ⟨_, rfl, JsonReader.TextReads.null⟩
  | string joined => exact ⟨_, rfl, JsonReader.TextReads.string joined⟩
  | bool b => exact ⟨_, rfl, JsonReader.TextReads.bool b⟩
  | @number x back =>
    obtain ⟨nan, inf⟩ := back.finite
    have written : (Value.number x).jsonText? = some (Decimal.numberText x) := by
      simp only [jsonText?, nan, inf, Bool.or_false, Bool.false_eq_true, if_false]
    exact ⟨_, written, JsonReader.TextReads.number back⟩
  | array _ ih => exact ⟨_, rfl, JsonReader.TextReads.array ih⟩
  | object keys ordered _ ih =>
    exact ⟨_, rfl, JsonReader.TextReads.object ordered fun f mem => ⟨keys f mem, ih f mem⟩⟩

/-- The JSON text of a value that reads back is read as the value. -/
theorem parseJson?_jsonText {v : Value} (back : v.ReadsBack) :
    ∃ text, v.jsonText? = some text ∧ Value.parseJson? text = .ok v := by
  obtain ⟨text, written, reads⟩ := jsonText?_reads back
  refine ⟨text, written, ?_⟩
  have whole := reads.reads (2 * text.toList.length + 2) [] (by omega) JsonReader.delimited_nil
  rw [List.append_nil] at whole
  simp only [Value.parseJson?, whole]
  rfl

end Value

end ModelTables
