/-! # UTF-16 units and their order

The texts the library handles are sequences of UTF-16 code units: a character
above U+FFFF is a pair of surrogate units, a high unit `D800…DBFF` followed by a
low unit `DC00…DFFF`, and a surrogate unit may also stand alone, without its other
half.  A `String` holds code points, so a lone surrogate unit `u` is held as the
private-use character `u + 0x100000`, in the block U+10D800…U+10DFFF that is set
aside for it; `unitsOf` reads such a character back as the single unit `u`.

Texts sort by their units, not by their code points: a character above U+FFFF
begins with a high surrogate unit and so sorts before U+E000…U+FFFF.  `unitLt` is
the lexicographic order on units.

`ofUnits` is the text of a unit sequence: each high unit directly followed by a
low unit becomes one character and every other surrogate unit stays alone.  So
`ofUnits (unitsOf s)` joins halves that a concatenation put side by side.
-/

namespace ModelTables.Text

/-- The distance from a lone surrogate unit to the character that holds it. -/
def loneOffset : Nat := 0x100000

/-- Whether a unit is a surrogate unit. -/
def isSurrogate (u : Nat) : Bool := 0xD800 ≤ u && u < 0xE000

/-- Whether a unit is a high (leading) surrogate unit. -/
def isHighSurrogate (u : Nat) : Bool := 0xD800 ≤ u && u < 0xDC00

/-- Whether a unit is a low (trailing) surrogate unit. -/
def isLowSurrogate (u : Nat) : Bool := 0xDC00 ≤ u && u < 0xE000

/-- The character that holds a lone surrogate unit. -/
def loneChar (u : Nat) : Char := Char.ofNat (u + loneOffset)

/-- The lone surrogate unit a character holds, if it holds one. -/
def loneUnit? (c : Char) : Option Nat :=
  if 0x10D800 ≤ c.toNat && c.toNat < 0x10E000 then some (c.toNat - loneOffset) else none

/-- The character of one unit that is not half of a pair. -/
def unitChar (u : Nat) : Char := if isSurrogate u then loneChar u else Char.ofNat u

/-- The character of a high and a low surrogate unit. -/
def pairChar (hi lo : Nat) : Char := Char.ofNat (0x10000 + (hi - 0xD800) * 0x400 + (lo - 0xDC00))

/-- The UTF-16 units of one character. -/
def charUnits (c : Char) : List Nat :=
  match loneUnit? c with
  | some u => [u]
  | none =>
    let n := c.toNat
    if n < 0x10000 then [n]
    else [0xD800 + (n - 0x10000) / 0x400, 0xDC00 + (n - 0x10000) % 0x400]

/-- The UTF-16 units of a text. -/
def unitsOf (s : String) : List Nat := s.toList.flatMap charUnits

/-- One step of reading units: a character, or a surrogate unit that stands alone. -/
inductive Piece where
  | char (c : Char)
  | lone (u : Nat)
  deriving Inhabited, BEq, Repr

/-- The pieces of a unit sequence: a high unit directly followed by a low unit is
one character, and every other surrogate unit is alone. -/
def piecesOfUnits : List Nat → List Piece
  | [] => []
  | [u] => if isSurrogate u then [.lone u] else [.char (Char.ofNat u)]
  | u :: v :: rest =>
    if isHighSurrogate u && isLowSurrogate v then .char (pairChar u v) :: piecesOfUnits rest
    else if isSurrogate u then .lone u :: piecesOfUnits (v :: rest)
    else .char (Char.ofNat u) :: piecesOfUnits (v :: rest)

/-- The pieces of a text. -/
def piecesOf (s : String) : List Piece := piecesOfUnits (unitsOf s)

/-- The character that stands for a piece. -/
def Piece.toChar : Piece → Char
  | .char c => c
  | .lone u => loneChar u

/-- The code point of a piece, a lone unit counting as its own value. -/
def Piece.codePoint : Piece → Nat
  | .char c => c.toNat
  | .lone u => u

/-- The text of a unit sequence. -/
def ofUnits (units : List Nat) : String := String.ofList ((piecesOfUnits units).map Piece.toChar)

/-- A text with the surrogate halves that stand side by side joined. -/
def joinHalves (s : String) : String := ofUnits (unitsOf s)

/-- The code points of a text, as a pattern in Unicode mode reads them. -/
def codePoints (s : String) : List Nat := (piecesOf s).map Piece.codePoint

/-- The units of a text, one character each: a unit below the surrogates or above
them is its own character, and a surrogate unit is held as when it stands alone. -/
def unitChars (s : String) : List Char := (unitsOf s).map unitChar

/-- Lexicographic order on unit lists. -/
def unitListLt : List Nat → List Nat → Bool
  | [], [] => false
  | [], _ :: _ => true
  | _ :: _, [] => false
  | a :: as, b :: bs => if a < b then true else if b < a then false else unitListLt as bs

/-- `a` sorts before `b` by UTF-16 units. -/
def unitLt (a b : String) : Bool := unitListLt (unitsOf a) (unitsOf b)

/-- Sort texts by UTF-16 units (stable). -/
def sortByUnits (xs : List String) : List String := xs.mergeSort fun a b => !unitLt b a

/-- The number of UTF-16 units of a text. -/
def unitLength (s : String) : Nat := (unitsOf s).length

end ModelTables.Text
