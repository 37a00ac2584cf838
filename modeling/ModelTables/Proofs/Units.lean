import ModelTables.Text.Units
import ModelTables.Text.Quoted
import Mathlib.Data.List.Chain
import Mathlib.Data.List.Lex

/-! # UTF-16 units of joined texts

A text of the library is a sequence of UTF-16 units, and a `String` holds one in
characters: a character above U+FFFF holds a pair of units, and a lone surrogate
unit is held by a character of its own set-aside block.  The one way two strings
can hold the same units is that one holds a lone high unit directly before a lone
low unit where the other holds the character of the pair.  A string without that is
*joined* (`Text.Joined`); the readers of the library give joined strings.

Main statements:

* `ofUnits_unitsOf`: reading the units of a joined text back gives the text, so
  `unitsOf` is injective on joined texts (`unitsOf_injective`);
* `unitLt_iff`: `unitLt` is the lexicographic order on units, a strict total order
  on joined texts (`unitLt_asymm`, `unitLt_or_unitLt`).

The last section gives the three shapes of a character's escape in a quoted text
(`escapeChar_shapes`), which the readers of quoted texts and the line checks share.
-/

namespace ModelTables.Text

/-- Whether a character holds a lone high surrogate unit. -/
def holdsLoneHigh (c : Char) : Bool := (loneUnit? c).any isHighSurrogate

/-- Whether a character holds a lone low surrogate unit. -/
def holdsLoneLow (c : Char) : Bool := (loneUnit? c).any isLowSurrogate

/-- A text in joined form: no character holding a lone high unit stands directly
before one holding a lone low unit. -/
def Joined (s : String) : Prop :=
  s.toList.IsChain fun a b => ¬ (holdsLoneHigh a = true ∧ holdsLoneLow b = true)

instance : DecidablePred Joined := fun s =>
  inferInstanceAs (Decidable (s.toList.IsChain fun a b => ¬ (holdsLoneHigh a = true ∧ holdsLoneLow b = true)))

/-- The piece a character is read back as. -/
def charPiece (c : Char) : Piece :=
  match loneUnit? c with
  | some u => .lone u
  | none => .char c

/-! ## One character -/

theorem loneUnit?_eq_some {c : Char} {u : Nat} (lone : loneUnit? c = some u) :
    u = c.toNat - loneOffset ∧ 0x10D800 ≤ c.toNat ∧ c.toNat < 0x10E000 := by
  unfold loneUnit? at lone
  split at lone
  · rename_i within
    simp only [Bool.and_eq_true, decide_eq_true_eq] at within
    simp only [Option.some.injEq] at lone
    exact ⟨lone.symm, within⟩
  · cases lone

theorem loneUnit?_eq_none {c : Char} (held : loneUnit? c = none) :
    c.toNat < 0x10D800 ∨ 0x10E000 ≤ c.toNat := by
  unfold loneUnit? at held
  split at held
  · cases held
  · rename_i outside
    simp only [Bool.and_eq_true, decide_eq_true_eq, not_and, not_lt] at outside
    omega

@[simp] theorem charPiece_toChar (c : Char) : (charPiece c).toChar = c := by
  unfold charPiece
  rcases lone : loneUnit? c with _ | u
  · rfl
  · obtain ⟨held, above, -⟩ := loneUnit?_eq_some lone
    have back : u + loneOffset = c.toNat := by
      unfold loneOffset at held ⊢
      omega
    show Char.ofNat (u + loneOffset) = c
    rw [back, Char.ofNat_toNat]

/-- The units of a character that holds no lone unit and lies below U+10000. -/
theorem charUnits_of_small {c : Char} (held : loneUnit? c = none) (small : c.toNat < 0x10000) :
    charUnits c = [c.toNat] := by
  simp [charUnits, held, small]

/-- The units of a character above U+FFFF that holds no lone unit: its pair. -/
theorem charUnits_of_large {c : Char} (held : loneUnit? c = none) (large : ¬ c.toNat < 0x10000) :
    charUnits c = [0xD800 + (c.toNat - 0x10000) / 0x400, 0xDC00 + (c.toNat - 0x10000) % 0x400] := by
  simp [charUnits, held, large]

/-- The units of one character read back as its piece, whatever units follow, unless
the character holds a lone high unit and a low unit follows it. -/
theorem piecesOfUnits_charUnits (c : Char) (rest : List Nat)
    (apart : holdsLoneHigh c = true → ∀ v ∈ rest.head?, isLowSurrogate v = false) :
    piecesOfUnits (charUnits c ++ rest) = charPiece c :: piecesOfUnits rest := by
  have valid : c.toNat < 0xD800 ∨ (0xDFFF < c.toNat ∧ c.toNat < 0x110000) := c.valid
  rcases lone : loneUnit? c with _ | u
  · by_cases small : c.toNat < 0x10000
    · -- a character below U+10000 is one unit, not a surrogate
      have plain : isSurrogate c.toNat = false := by
        simp only [isSurrogate, Bool.and_eq_false_iff, decide_eq_false_iff_not]
        omega
      have notHigh : isHighSurrogate c.toNat = false := by
        simp only [isHighSurrogate, Bool.and_eq_false_iff, decide_eq_false_iff_not]
        omega
      rw [charUnits_of_small lone small, charPiece, lone]
      rcases rest with _ | ⟨v, rest⟩
      · simp [piecesOfUnits, plain, Char.ofNat_toNat]
      · simp [piecesOfUnits, plain, notHigh, Char.ofNat_toNat]
    · -- a character above U+FFFF is a high unit and a low unit
      have high : isHighSurrogate (0xD800 + (c.toNat - 0x10000) / 0x400) = true := by
        simp only [isHighSurrogate, Bool.and_eq_true, decide_eq_true_eq]
        omega
      have low : isLowSurrogate (0xDC00 + (c.toNat - 0x10000) % 0x400) = true := by
        simp only [isLowSurrogate, Bool.and_eq_true, decide_eq_true_eq]
        omega
      have paired : pairChar (0xD800 + (c.toNat - 0x10000) / 0x400)
          (0xDC00 + (c.toNat - 0x10000) % 0x400) = c := by
        unfold pairChar
        rw [show 0x10000 + (0xD800 + (c.toNat - 0x10000) / 0x400 - 0xD800) * 0x400 +
            (0xDC00 + (c.toNat - 0x10000) % 0x400 - 0xDC00) = c.toNat by omega, Char.ofNat_toNat]
      rw [charUnits_of_large lone small, charPiece, lone]
      simp [piecesOfUnits, high, low, paired]
  · -- a lone unit stays alone: a low unit cannot follow a lone high one here
    obtain ⟨held, above, below⟩ := loneUnit?_eq_some lone
    have surrogate : isSurrogate u = true := by
      simp only [isSurrogate, Bool.and_eq_true, decide_eq_true_eq]
      unfold loneOffset at held
      omega
    have units : charUnits c = [u] := by simp [charUnits, lone]
    rw [units, charPiece, lone]
    rcases rest with _ | ⟨v, rest⟩
    · simp [piecesOfUnits, surrogate]
    · have unpaired : (isHighSurrogate u && isLowSurrogate v) = false := by
        cases high : isHighSurrogate u
        · rfl
        · exact apart (by simp [holdsLoneHigh, lone, high]) v rfl
      simp [piecesOfUnits, unpaired, surrogate]

/-- The first unit of a character is low only when it holds a lone low unit. -/
theorem holdsLoneLow_of_head {d : Char} {v : Nat} (first : (charUnits d).head? = some v)
    (low : isLowSurrogate v = true) : holdsLoneLow d = true := by
  have valid : d.toNat < 0xD800 ∨ (0xDFFF < d.toNat ∧ d.toNat < 0x110000) := d.valid
  simp only [isLowSurrogate, Bool.and_eq_true, decide_eq_true_eq] at low
  rcases lone : loneUnit? d with _ | u
  · -- a character holding no lone unit starts with itself or a high unit
    by_cases small : d.toNat < 0x10000
    · rw [charUnits_of_small lone small] at first
      cases first
      omega
    · rw [charUnits_of_large lone small] at first
      cases first
      omega
  · have units : charUnits d = [u] := by simp [charUnits, lone]
    rw [units] at first
    cases first
    simp [holdsLoneLow, lone, isLowSurrogate, low]

/-! ## Whole texts -/

/-- The units of a joined list of characters read back as their pieces. -/
theorem piecesOfUnits_flatMap :
    ∀ {cs : List Char}, cs.IsChain (fun a b => ¬ (holdsLoneHigh a = true ∧ holdsLoneLow b = true)) →
      piecesOfUnits (cs.flatMap charUnits) = cs.map charPiece
  | [], _ => rfl
  | [c], _ => by
    simpa [piecesOfUnits] using piecesOfUnits_charUnits c [] (by simp)
  | c :: d :: rest, chained => by
    obtain ⟨apart, chainedRest⟩ := List.isChain_cons_cons.mp chained
    rw [List.flatMap_cons, piecesOfUnits_charUnits c _ ?apart, piecesOfUnits_flatMap chainedRest]
    · rfl
    case apart =>
      -- the units after `c` start with the units of `d`
      intro high v first
      have dFirst : (charUnits d).head? = some v := by
        rcases units : charUnits d with _ | ⟨w, ws⟩
        · simp [charUnits] at units
          split at units <;> (try split at units) <;> cases units
        · simpa [units] using first
      cases low : isLowSurrogate v
      · rfl
      · exact absurd ⟨high, holdsLoneLow_of_head dFirst low⟩ apart

theorem ofUnits_unitsOf {s : String} (joined : Joined s) : ofUnits (unitsOf s) = s := by
  unfold ofUnits unitsOf
  rw [piecesOfUnits_flatMap joined, List.map_map]
  simp [Function.comp_def]

/-- Joined texts with the same units are the same text. -/
theorem unitsOf_injective {s t : String} (joinedS : Joined s) (joinedT : Joined t)
    (same : unitsOf s = unitsOf t) : s = t := by
  rw [← ofUnits_unitsOf joinedS, ← ofUnits_unitsOf joinedT, same]

/-! ## The order of units -/

theorem unitListLt_iff : ∀ (l l' : List Nat), unitListLt l l' = true ↔ l < l'
  | [], [] => by simp [unitListLt]
  | [], _ :: _ => by simp [unitListLt]
  | _ :: _, [] => by simp [unitListLt]
  | a :: as, b :: bs => by
    rw [List.cons_lt_cons_iff, ← unitListLt_iff as bs]
    show (if a < b then true else if b < a then false else unitListLt as bs) = true ↔ _
    by_cases below : a < b
    · simp [below]
    · by_cases above : b < a
      · have apart : a ≠ b := by omega
        simp [below, above, apart]
      · obtain rfl : a = b := by omega
        simp

theorem unitLt_iff (a b : String) : unitLt a b = true ↔ unitsOf a < unitsOf b :=
  unitListLt_iff _ _

theorem unitLt_asymm {a b : String} (before : unitLt a b = true) : unitLt b a = false := by
  rw [unitLt_iff] at before
  rw [Bool.eq_false_iff, ne_eq, unitLt_iff]
  exact lt_asymm before

theorem unitLt_irrefl (a : String) : unitLt a a = false := by
  rw [Bool.eq_false_iff, ne_eq, unitLt_iff]
  exact lt_irrefl _

/-- "Not after" is transitive: the order the stable sort of the library uses. -/
theorem not_unitLt_trans {a b c : String} (ab : unitLt b a = false) (bc : unitLt c b = false) :
    unitLt c a = false := by
  simp only [Bool.eq_false_iff, ne_eq, unitLt_iff, not_lt] at ab bc ⊢
  exact le_trans ab bc

/-- Two distinct joined texts are ordered one way or the other. -/
theorem unitLt_or_unitLt {a b : String} (joinedA : Joined a) (joinedB : Joined b) (apart : a ≠ b) :
    unitLt a b = true ∨ unitLt b a = true := by
  simp only [unitLt_iff]
  rcases lt_trichotomy (unitsOf a) (unitsOf b) with before | same | after
  · exact .inl before
  · exact absurd (unitsOf_injective joinedA joinedB same) apart
  · exact .inr after

/-! ## Quoted texts -/

theorem quote_toList (s : String) :
    (quote s).toList = '"' :: ((piecesOf s).flatMap escapePiece ++ ['"']) :=
  String.toList_ofList

/-- The characters written as a backslash and one letter, each with its letter. -/
def shortEscapes : List (Char × Char) :=
  [('"', '"'), ('\\', '\\'), (Char.ofNat 8, 'b'), ('\t', 't'), ('\n', 'n'), (Char.ofNat 12, 'f'),
    ('\r', 'r')]

/-- The three shapes of a character's escape: a backslash and the letter of a short
escape; a `\u` escape of the code of another control character; or the character
itself. -/
theorem escapeChar_shapes (c : Char) :
    (∃ e, (c, e) ∈ shortEscapes ∧ escapeChar c = ['\\', e]) ∨
    (c.toNat < 32 ∧ escapeChar c = '\\' :: 'u' :: hex4 c.toNat) ∨
    (c ≠ '"' ∧ c ≠ '\\' ∧ 32 ≤ c.toNat ∧ escapeChar c = [c]) := by
  by_cases quote : c = '"'
  · subst quote
    exact .inl ⟨'"', by simp [shortEscapes], rfl⟩
  by_cases backslash : c = '\\'
  · subst backslash
    exact .inl ⟨'\\', by simp [shortEscapes], rfl⟩
  by_cases control : c.toNat < 32
  · -- five control characters have a short escape, the others a `\u` one
    by_cases backspace : c.toNat = 8
    · obtain rfl : c = Char.ofNat 8 := by rw [← backspace, Char.ofNat_toNat]
      exact .inl ⟨'b', by simp [shortEscapes], rfl⟩
    by_cases tab : c = '\t'
    · subst tab
      exact .inl ⟨'t', by simp [shortEscapes], rfl⟩
    by_cases newline : c = '\n'
    · subst newline
      exact .inl ⟨'n', by simp [shortEscapes], rfl⟩
    by_cases formfeed : c.toNat = 12
    · obtain rfl : c = Char.ofNat 12 := by rw [← formfeed, Char.ofNat_toNat]
      exact .inl ⟨'f', by simp [shortEscapes], rfl⟩
    by_cases cr : c = '\r'
    · subst cr
      exact .inl ⟨'r', by simp [shortEscapes], rfl⟩
    refine .inr (.inl ⟨control, ?_⟩)
    simp only [escapeChar, beq_iff_eq, quote, backslash, backspace, tab, newline, formfeed, cr,
      control, if_false, if_true]
  · have printable : ∀ d : Char, d.toNat < 32 → c ≠ d := fun d small same => by
      subst same
      omega
    refine .inr (.inr ⟨quote, backslash, by omega, ?_⟩)
    simp only [escapeChar, beq_iff_eq, quote, backslash, control, if_false,
      show c.toNat ≠ 8 by omega, show c.toNat ≠ 12 by omega, printable '\t' (by decide),
      printable '\n' (by decide), printable '\r' (by decide)]

end ModelTables.Text
