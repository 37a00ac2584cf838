import ModelTables.Text.Units
import ModelTables.Text.Category

/-! # Regular expressions over code units

A glob segment compiles to the source text of a regular expression; `Rx.parse?`
reads that text back into an `Rx`, and `Rx.test` decides whether the expression
matches somewhere in a text.  Unicode mode is strict about escapes:
`escapesAdmitted` tells whether it accepts those of a text.

Matching works on end positions: `Rx.ends r s p` is every position where `r` can
stop when it starts at `p` in the units `s`.  Because every end is kept, the
answer does not depend on the order in which a backtracking matcher would try
alternatives, so lazy and greedy repetition coincide, and a negative lookahead
holds exactly when its body has no end at all.

Texts are read as UTF-16 units, except in Unicode mode (needed by the POSIX
classes), where they are read as code points.
-/

namespace ModelTables.Glob

/-- A member of a bracket class. -/
inductive ClassItem where
  /-- The units from `lo` to `hi`, both included. -/
  | range (lo hi : Nat)
  /-- A Unicode general category, such as `L` or `Nd`. -/
  | category (name : String)
  deriving Inhabited, Repr

/-- Whether a unit belongs to a class member. -/
def ClassItem.admits (u : Nat) : ClassItem → Bool
  | .range lo hi => lo ≤ u && u ≤ hi
  | .category name => Text.hasCategory name u

/-- The line terminators, which `.` does not match. -/
def isLineTerminator (u : Nat) : Bool := u == 0x0A || u == 0x0D || u == 0x2028 || u == 0x2029

/-- A regular expression. -/
inductive Rx where
  | empty
  | unit (u : Nat)
  /-- `.`: any unit but a line terminator. -/
  | anyUnit
  /-- A bracket class, possibly negated. -/
  | cls (negated : Bool) (items : List ClassItem)
  | atStart
  | atEnd
  | seq (items : List Rx)
  | alt (items : List Rx)
  | star (r : Rx)
  | plus (r : Rx)
  | opt (r : Rx)
  | ahead (r : Rx)
  | notAhead (r : Rx)
  deriving Inhabited, Repr

/-- An expression that matches nothing. -/
def Rx.nothing : Rx := .cls false []

/-- Add a position to a set of positions kept as a list without repeats. -/
def addPosition (ps : List Nat) (p : Nat) : List Nat := if ps.contains p then ps else ps ++ [p]

/-- The union of two position sets. -/
def unionPositions (ps qs : List Nat) : List Nat := qs.foldl addPosition ps

/-- Every position reachable from `frontier` by repeating `step`, together with
`known`; `fuel` bounds the rounds, and `n + 1` rounds suffice in a text of `n`
units because each round that adds anything adds a new position. -/
def reach (step : Nat → List Nat) : Nat → List Nat → List Nat → List Nat
  | 0, known, _ => known
  | fuel + 1, known, frontier =>
    let next := (frontier.flatMap step).foldl (fun acc q =>
      if known.contains q || acc.contains q then acc else acc ++ [q]) []
    if next.isEmpty then known else reach step fuel (known ++ next) next

mutual

/-- The positions where `r` can end when it starts at `p` in `s`. -/
def Rx.ends : Rx → Array Nat → Nat → List Nat
  | .empty, _, p => [p]
  | .unit u, s, p => if s[p]? == some u then [p + 1] else []
  | .anyUnit, s, p => match s[p]? with
    | some u => if isLineTerminator u then [] else [p + 1]
    | none => []
  | .cls negated items, s, p => match s[p]? with
    | some u => if items.any (·.admits u) != negated then [p + 1] else []
    | none => []
  | .atStart, _, p => if p == 0 then [p] else []
  | .atEnd, s, p => if p == s.size then [p] else []
  | .seq items, s, p => Rx.seqEnds items s [p]
  | .alt items, s, p => Rx.altEnds items s p
  | .star r, s, p => reach (fun q => r.ends s q) (s.size + 1) [p] [p]
  | .plus r, s, p =>
    let first := r.ends s p
    reach (fun q => r.ends s q) (s.size + 1) first first
  | .opt r, s, p => unionPositions [p] (r.ends s p)
  | .ahead r, s, p => if (r.ends s p).isEmpty then [] else [p]
  | .notAhead r, s, p => if (r.ends s p).isEmpty then [p] else []

/-- The ends of a sequence, from every start in `ps`. -/
def Rx.seqEnds : List Rx → Array Nat → List Nat → List Nat
  | [], _, ps => ps
  | r :: rs, s, ps =>
    Rx.seqEnds rs s ((ps.flatMap fun p => r.ends s p).foldl addPosition [])

/-- The ends of an alternation. -/
def Rx.altEnds : List Rx → Array Nat → Nat → List Nat
  | [], _, _ => []
  | r :: rs, s, p => unionPositions (r.ends s p) (Rx.altEnds rs s p)

end

/-- Whether `r` matches somewhere in `s`: some start has an end. -/
def Rx.test (r : Rx) (s : Array Nat) : Bool :=
  (List.range (s.size + 1)).any fun p => !(r.ends s p).isEmpty

/-! ## Reading regular-expression source -/

/-- The units a character stands for: its code point in Unicode mode (a lone
surrogate unit counting as itself), else its UTF-16 units. -/
def charUnitsIn (unicode : Bool) (c : Char) : List Nat :=
  if unicode then [(Text.loneUnit? c).getD c.toNat] else Text.charUnits c

/-- The value of a hexadecimal digit. -/
def hexValue? (c : Char) : Option Nat :=
  if '0' ≤ c && c ≤ '9' then some (c.toNat - '0'.toNat)
  else if 'a' ≤ c && c ≤ 'f' then some (c.toNat - 'a'.toNat + 10)
  else if 'A' ≤ c && c ≤ 'F' then some (c.toNat - 'A'.toNat + 10)
  else none

/-- The character a one-letter control escape stands for. -/
def controlEscape? : Char → Option Nat
  | 't' => some 9
  | 'n' => some 10
  | 'v' => some 11
  | 'f' => some 12
  | 'r' => some 13
  | _ => none

/-- Read the name of a `\p{...}` category up to its closing brace. -/
def readCategory : List Char → List Char → Option (String × List Char)
  | [], _ => none
  | c :: rest, acc => if c == '}' then some (String.ofList acc.reverse, rest)
    else readCategory rest (c :: acc)

/-- Read one class member's single unit, after any escape; `none` means the text
cannot be read. -/
def readClassAtom (unicode : Bool) : List Char → Option (Sum (List Nat) String × List Char)
  | '\\' :: 'p' :: '{' :: rest => (readCategory rest []).map fun (n, r) => (.inr n, r)
  | '\\' :: 'x' :: a :: b :: rest => match hexValue? a, hexValue? b with
    | some x, some y => some (.inl [x * 16 + y], rest)
    | _, _ => some (.inl ['x'.toNat], a :: b :: rest)
  | '\\' :: c :: rest => match controlEscape? c with
    | some u => some (.inl [u], rest)
    | none => some (.inl (charUnitsIn unicode c), rest)
  | c :: rest => some (.inl (charUnitsIn unicode c), rest)
  | [] => none

/-- Read the members of a bracket class up to its closing bracket. -/
def readClassItems (unicode : Bool) : Nat → List Char → List ClassItem →
    Option (List ClassItem × List Char)
  | 0, _, _ => none
  | _ + 1, [], _ => none
  | _ + 1, ']' :: rest, acc => some (acc.reverse, rest)
  | fuel + 1, cs, acc =>
    match readClassAtom unicode cs with
    | none => none
    | some (.inr name, rest) => readClassItems unicode fuel rest (.category name :: acc)
    | some (.inl units, rest) =>
      match units, rest with
      | [lo], '-' :: next :: more =>
        if next == ']' then
          readClassItems unicode fuel (']' :: more) (.range 45 45 :: .range lo lo :: acc)
        else match readClassAtom unicode (next :: more) with
          | some (.inl [hi], after) =>
            if lo ≤ hi then readClassItems unicode fuel after (.range lo hi :: acc) else none
          | _ => none
      | _, _ =>
        readClassItems unicode fuel rest ((units.map fun u => ClassItem.range u u).reverse ++ acc)

mutual

/-- Read alternatives up to a closing parenthesis or the end of the text. -/
def readAlternatives (unicode : Bool) : Nat → List Char → List Rx → Option (Rx × List Char)
  | 0, _, _ => none
  | fuel + 1, cs, acc =>
    match readSequence unicode fuel cs [] with
    | none => none
    | some (r, '|' :: rest) => readAlternatives unicode fuel rest (r :: acc)
    | some (r, rest) =>
      let items := (r :: acc).reverse
      some (match items with
        | [single] => single
        | _ => .alt items, rest)

/-- Read a sequence of quantified atoms up to `|`, `)` or the end of the text. -/
def readSequence (unicode : Bool) : Nat → List Char → List Rx → Option (Rx × List Char)
  | 0, _, _ => none
  | _ + 1, [], acc => some (.seq acc.reverse, [])
  | _ + 1, '|' :: rest, acc => some (.seq acc.reverse, '|' :: rest)
  | _ + 1, ')' :: rest, acc => some (.seq acc.reverse, ')' :: rest)
  | fuel + 1, cs, acc =>
    match readAtom unicode fuel cs with
    | none => none
    | some (atom, rest) =>
      let (quantified, after) := match rest with
        | '*' :: '?' :: more => (Rx.star atom, more)
        | '*' :: more => (Rx.star atom, more)
        | '+' :: '?' :: more => (Rx.plus atom, more)
        | '+' :: more => (Rx.plus atom, more)
        | '?' :: '?' :: more => (Rx.opt atom, more)
        | '?' :: more => (Rx.opt atom, more)
        | more => (atom, more)
      readSequence unicode fuel after (quantified :: acc)

/-- Read one atom: a group, a class, an escape, an anchor or a character. -/
def readAtom (unicode : Bool) : Nat → List Char → Option (Rx × List Char)
  | 0, _ => none
  | fuel + 1, '(' :: '?' :: ':' :: rest => readGroup unicode fuel rest id
  | fuel + 1, '(' :: '?' :: '!' :: rest => readGroup unicode fuel rest .notAhead
  | fuel + 1, '(' :: '?' :: '=' :: rest => readGroup unicode fuel rest .ahead
  | fuel + 1, '(' :: rest => readGroup unicode fuel rest id
  | _ + 1, '[' :: '^' :: rest =>
    (readClassItems unicode (rest.length + 1) rest []).map fun (items, r) => (.cls true items, r)
  | _ + 1, '[' :: rest =>
    (readClassItems unicode (rest.length + 1) rest []).map fun (items, r) => (.cls false items, r)
  | _ + 1, '^' :: rest => some (.atStart, rest)
  | _ + 1, '$' :: rest => some (.atEnd, rest)
  | _ + 1, '.' :: rest => some (.anyUnit, rest)
  | _ + 1, '*' :: _ => none
  | _ + 1, '+' :: _ => none
  | _ + 1, '?' :: _ => none
  | _ + 1, cs => (readClassAtom unicode cs).bind fun
    | (.inl units, rest) => some (.seq (units.map Rx.unit), rest)
    | (.inr name, rest) => some (.cls false [.category name], rest)

/-- Read the body of a group and its closing parenthesis. -/
def readGroup (unicode : Bool) : Nat → List Char → (Rx → Rx) → Option (Rx × List Char)
  | 0, _, _ => none
  | fuel + 1, cs, wrap =>
    match readAlternatives unicode fuel cs [] with
    | some (body, ')' :: rest) => some (wrap body, rest)
    | _ => none

end

/-- Read regular-expression source; `none` when the text is not a well-formed
expression. -/
def Rx.parse? (unicode : Bool) (source : String) : Option Rx :=
  let cs := if unicode then (Text.joinHalves source).toList else source.toList
  match readAlternatives unicode (4 * cs.length + 4) cs [] with
  | some (r, []) => some r
  | _ => none

/-- The characters with a meaning of their own in expression text, which an
escape may always stand before. -/
def isSyntaxChar (c : Char) : Bool := "^$\\.*+?()[]\x7b\x7d|/".toList.contains c

/-- Whether every escape of an expression text is one that Unicode mode admits:
a syntax character, `-` inside a class, a control letter, `\x` with two
hexadecimal digits, or `\p` for a category.  Outside Unicode mode an escape of
any other character stands for that character, but Unicode mode refuses the
text.  `inClass` tells whether the text starts inside a bracket class. -/
def escapesAdmitted : List Char → Bool → Bool
  | [], _ => true
  | '\\' :: 'x' :: rest, inClass =>
    (rest.take 2).length == 2 && (rest.take 2).all (fun c => (hexValue? c).isSome) &&
      escapesAdmitted rest inClass
  | '\\' :: c :: rest, inClass =>
    (isSyntaxChar c || (inClass && c == '-') || (controlEscape? c).isSome || c == 'p') &&
      escapesAdmitted rest inClass
  | '[' :: rest, false => escapesAdmitted rest true
  | ']' :: rest, true => escapesAdmitted rest false
  | _ :: rest, inClass => escapesAdmitted rest inClass

/-- The units a text is matched as. -/
def matchUnits (unicode : Bool) (s : String) : Array Nat :=
  if unicode then (Text.codePoints s).toArray else (Text.unitsOf s).toArray

end ModelTables.Glob
