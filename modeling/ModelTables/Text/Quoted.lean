import ModelTables.Text.Units

/-! # Quoted text

A text written as a double-quoted JSON string: the quote and the backslash are
escaped, the control characters below U+0020 are written `\b`, `\t`, `\n`, `\f`,
`\r` or `\u00xx` (lower-case hex), a surrogate unit that stands alone is written
`\udxxx` (lower-case hex), and every other character, non-ASCII included, stands
as itself.  Surrogate halves that stand side by side are one character.
-/

namespace ModelTables.Text

/-- The hex digit of a number below 16, lower case. -/
def hexDigit (n : Nat) : Char :=
  if n < 10 then Char.ofNat ('0'.toNat + n) else Char.ofNat ('a'.toNat + n - 10)

/-- Four lower-case hex digits of a number below 65536. -/
def hex4 (n : Nat) : List Char :=
  [hexDigit (n / 4096 % 16), hexDigit (n / 256 % 16), hexDigit (n / 16 % 16), hexDigit (n % 16)]

/-- The escaped form of one character. -/
def escapeChar (c : Char) : List Char :=
  if c == '"' then ['\\', '"']
  else if c == '\\' then ['\\', '\\']
  else if c.toNat == 8 then ['\\', 'b']
  else if c == '\t' then ['\\', 't']
  else if c == '\n' then ['\\', 'n']
  else if c.toNat == 12 then ['\\', 'f']
  else if c == '\r' then ['\\', 'r']
  else if c.toNat < 32 then '\\' :: 'u' :: hex4 c.toNat
  else [c]

/-- The escaped form of one piece of a text. -/
def escapePiece : Piece → List Char
  | .char c => escapeChar c
  | .lone u => '\\' :: 'u' :: hex4 u

/-- A text written as a quoted string. -/
def quote (s : String) : String := String.ofList ('"' :: ((piecesOf s).flatMap escapePiece ++ ['"']))

end ModelTables.Text
