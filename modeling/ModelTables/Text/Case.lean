import ModelTables.Text.Category
import ModelTables.Text.Units

/-! # Blanks and letter case

The character classes and case maps that names and tags go through.

* `isBlank`: the white space and line terminators that trimming removes: tab, line
  feed, vertical tab, form feed, carriage return, space, U+00A0, U+1680,
  U+2000…U+200A, U+2028, U+2029, U+202F, U+205F, U+3000 and U+FEFF.
* `lower`: the full lower-case map of Unicode 17.0.  Every character maps to one
  character except `İ`, which becomes `i̇` (two characters), and a capital sigma
  becomes the final form `ς` when it ends a word: when a cased letter comes before
  it and none comes after it, looking past case-ignorable characters on both sides
  (a character that is case-ignorable is passed over even when it is also cased).
  A lone surrogate unit is kept.
* `upperAscii?`: the upper case of a character when that upper case is ASCII text
  (`a`…`z`, `ß`, the dotless `ı`, the long `ſ`, the ligatures U+FB00…U+FB06);
  `none` otherwise.  Tags are compared with ASCII keys only, so this is all a
  comparison of an upper-cased tag needs.

The lower-case map is kept as runs `(first, last, delta, stride)`: every `stride`-th
code point from `first` to `last` maps to itself plus `delta`.  The properties
`Cased` and `Case_Ignorable` are kept as the lengths of the runs of code points
outside and inside the property, alternately, in hex, starting outside at U+0000.
-/

namespace ModelTables.Text

/-- The blanks removed by trimming. -/
def isBlank (c : Char) : Bool :=
  let n := c.toNat
  (9 ≤ n ∧ n ≤ 13) || n == 32 || n == 0xA0 || n == 0x1680 || (0x2000 ≤ n ∧ n ≤ 0x200A) ||
    n == 0x2028 || n == 0x2029 || n == 0x202F || n == 0x205F || n == 0x3000 || n == 0xFEFF

/-- Remove blanks at both ends. -/
def trimChars (cs : List Char) : List Char :=
  ((cs.dropWhile isBlank).reverse.dropWhile isBlank).reverse

/-- Remove blanks at both ends of a text. -/
def trim (s : String) : String := String.ofList (trimChars s.toList)

/-- The runs of the lower-case map. -/
def lowerRuns : List (Nat × Nat × Int × Nat) := [
  (0x41, 0x5A, 32, 1),
  (0xC0, 0xD6, 32, 1),
  (0xD8, 0xDE, 32, 1),
  (0x100, 0x12E, 1, 2),
  (0x132, 0x136, 1, 2),
  (0x139, 0x147, 1, 2),
  (0x14A, 0x176, 1, 2),
  (0x178, 0x178, -121, 1),
  (0x179, 0x17D, 1, 2),
  (0x181, 0x181, 210, 1),
  (0x182, 0x184, 1, 2),
  (0x186, 0x186, 206, 1),
  (0x187, 0x187, 1, 1),
  (0x189, 0x18A, 205, 1),
  (0x18B, 0x18B, 1, 1),
  (0x18E, 0x18E, 79, 1),
  (0x18F, 0x18F, 202, 1),
  (0x190, 0x190, 203, 1),
  (0x191, 0x191, 1, 1),
  (0x193, 0x193, 205, 1),
  (0x194, 0x194, 207, 1),
  (0x196, 0x196, 211, 1),
  (0x197, 0x197, 209, 1),
  (0x198, 0x198, 1, 1),
  (0x19C, 0x19C, 211, 1),
  (0x19D, 0x19D, 213, 1),
  (0x19F, 0x19F, 214, 1),
  (0x1A0, 0x1A4, 1, 2),
  (0x1A6, 0x1A6, 218, 1),
  (0x1A7, 0x1A7, 1, 1),
  (0x1A9, 0x1A9, 218, 1),
  (0x1AC, 0x1AC, 1, 1),
  (0x1AE, 0x1AE, 218, 1),
  (0x1AF, 0x1AF, 1, 1),
  (0x1B1, 0x1B2, 217, 1),
  (0x1B3, 0x1B5, 1, 2),
  (0x1B7, 0x1B7, 219, 1),
  (0x1B8, 0x1B8, 1, 1),
  (0x1BC, 0x1BC, 1, 1),
  (0x1C4, 0x1C4, 2, 1),
  (0x1C5, 0x1C5, 1, 1),
  (0x1C7, 0x1C7, 2, 1),
  (0x1C8, 0x1C8, 1, 1),
  (0x1CA, 0x1CA, 2, 1),
  (0x1CB, 0x1DB, 1, 2),
  (0x1DE, 0x1EE, 1, 2),
  (0x1F1, 0x1F1, 2, 1),
  (0x1F2, 0x1F4, 1, 2),
  (0x1F6, 0x1F6, -97, 1),
  (0x1F7, 0x1F7, -56, 1),
  (0x1F8, 0x21E, 1, 2),
  (0x220, 0x220, -130, 1),
  (0x222, 0x232, 1, 2),
  (0x23A, 0x23A, 10795, 1),
  (0x23B, 0x23B, 1, 1),
  (0x23D, 0x23D, -163, 1),
  (0x23E, 0x23E, 10792, 1),
  (0x241, 0x241, 1, 1),
  (0x243, 0x243, -195, 1),
  (0x244, 0x244, 69, 1),
  (0x245, 0x245, 71, 1),
  (0x246, 0x24E, 1, 2),
  (0x370, 0x372, 1, 2),
  (0x376, 0x376, 1, 1),
  (0x37F, 0x37F, 116, 1),
  (0x386, 0x386, 38, 1),
  (0x388, 0x38A, 37, 1),
  (0x38C, 0x38C, 64, 1),
  (0x38E, 0x38F, 63, 1),
  (0x391, 0x3A1, 32, 1),
  (0x3A3, 0x3AB, 32, 1),
  (0x3CF, 0x3CF, 8, 1),
  (0x3D8, 0x3EE, 1, 2),
  (0x3F4, 0x3F4, -60, 1),
  (0x3F7, 0x3F7, 1, 1),
  (0x3F9, 0x3F9, -7, 1),
  (0x3FA, 0x3FA, 1, 1),
  (0x3FD, 0x3FF, -130, 1),
  (0x400, 0x40F, 80, 1),
  (0x410, 0x42F, 32, 1),
  (0x460, 0x480, 1, 2),
  (0x48A, 0x4BE, 1, 2),
  (0x4C0, 0x4C0, 15, 1),
  (0x4C1, 0x4CD, 1, 2),
  (0x4D0, 0x52E, 1, 2),
  (0x531, 0x556, 48, 1),
  (0x10A0, 0x10C5, 7264, 1),
  (0x10C7, 0x10C7, 7264, 1),
  (0x10CD, 0x10CD, 7264, 1),
  (0x13A0, 0x13EF, 38864, 1),
  (0x13F0, 0x13F5, 8, 1),
  (0x1C89, 0x1C89, 1, 1),
  (0x1C90, 0x1CBA, -3008, 1),
  (0x1CBD, 0x1CBF, -3008, 1),
  (0x1E00, 0x1E94, 1, 2),
  (0x1E9E, 0x1E9E, -7615, 1),
  (0x1EA0, 0x1EFE, 1, 2),
  (0x1F08, 0x1F0F, -8, 1),
  (0x1F18, 0x1F1D, -8, 1),
  (0x1F28, 0x1F2F, -8, 1),
  (0x1F38, 0x1F3F, -8, 1),
  (0x1F48, 0x1F4D, -8, 1),
  (0x1F59, 0x1F5F, -8, 2),
  (0x1F68, 0x1F6F, -8, 1),
  (0x1F88, 0x1F8F, -8, 1),
  (0x1F98, 0x1F9F, -8, 1),
  (0x1FA8, 0x1FAF, -8, 1),
  (0x1FB8, 0x1FB9, -8, 1),
  (0x1FBA, 0x1FBB, -74, 1),
  (0x1FBC, 0x1FBC, -9, 1),
  (0x1FC8, 0x1FCB, -86, 1),
  (0x1FCC, 0x1FCC, -9, 1),
  (0x1FD8, 0x1FD9, -8, 1),
  (0x1FDA, 0x1FDB, -100, 1),
  (0x1FE8, 0x1FE9, -8, 1),
  (0x1FEA, 0x1FEB, -112, 1),
  (0x1FEC, 0x1FEC, -7, 1),
  (0x1FF8, 0x1FF9, -128, 1),
  (0x1FFA, 0x1FFB, -126, 1),
  (0x1FFC, 0x1FFC, -9, 1),
  (0x2126, 0x2126, -7517, 1),
  (0x212A, 0x212A, -8383, 1),
  (0x212B, 0x212B, -8262, 1),
  (0x2132, 0x2132, 28, 1),
  (0x2160, 0x216F, 16, 1),
  (0x2183, 0x2183, 1, 1),
  (0x24B6, 0x24CF, 26, 1),
  (0x2C00, 0x2C2F, 48, 1),
  (0x2C60, 0x2C60, 1, 1),
  (0x2C62, 0x2C62, -10743, 1),
  (0x2C63, 0x2C63, -3814, 1),
  (0x2C64, 0x2C64, -10727, 1),
  (0x2C67, 0x2C6B, 1, 2),
  (0x2C6D, 0x2C6D, -10780, 1),
  (0x2C6E, 0x2C6E, -10749, 1),
  (0x2C6F, 0x2C6F, -10783, 1),
  (0x2C70, 0x2C70, -10782, 1),
  (0x2C72, 0x2C72, 1, 1),
  (0x2C75, 0x2C75, 1, 1),
  (0x2C7E, 0x2C7F, -10815, 1),
  (0x2C80, 0x2CE2, 1, 2),
  (0x2CEB, 0x2CED, 1, 2),
  (0x2CF2, 0x2CF2, 1, 1),
  (0xA640, 0xA66C, 1, 2),
  (0xA680, 0xA69A, 1, 2),
  (0xA722, 0xA72E, 1, 2),
  (0xA732, 0xA76E, 1, 2),
  (0xA779, 0xA77B, 1, 2),
  (0xA77D, 0xA77D, -35332, 1),
  (0xA77E, 0xA786, 1, 2),
  (0xA78B, 0xA78B, 1, 1),
  (0xA78D, 0xA78D, -42280, 1),
  (0xA790, 0xA792, 1, 2),
  (0xA796, 0xA7A8, 1, 2),
  (0xA7AA, 0xA7AA, -42308, 1),
  (0xA7AB, 0xA7AB, -42319, 1),
  (0xA7AC, 0xA7AC, -42315, 1),
  (0xA7AD, 0xA7AD, -42305, 1),
  (0xA7AE, 0xA7AE, -42308, 1),
  (0xA7B0, 0xA7B0, -42258, 1),
  (0xA7B1, 0xA7B1, -42282, 1),
  (0xA7B2, 0xA7B2, -42261, 1),
  (0xA7B3, 0xA7B3, 928, 1),
  (0xA7B4, 0xA7C2, 1, 2),
  (0xA7C4, 0xA7C4, -48, 1),
  (0xA7C5, 0xA7C5, -42307, 1),
  (0xA7C6, 0xA7C6, -35384, 1),
  (0xA7C7, 0xA7C9, 1, 2),
  (0xA7CB, 0xA7CB, -42343, 1),
  (0xA7CC, 0xA7DA, 1, 2),
  (0xA7DC, 0xA7DC, -42561, 1),
  (0xA7F5, 0xA7F5, 1, 1),
  (0xFF21, 0xFF3A, 32, 1),
  (0x10400, 0x10427, 40, 1),
  (0x104B0, 0x104D3, 40, 1),
  (0x10570, 0x1057A, 39, 1),
  (0x1057C, 0x1058A, 39, 1),
  (0x1058C, 0x10592, 39, 1),
  (0x10594, 0x10595, 39, 1),
  (0x10C80, 0x10CB2, 64, 1),
  (0x10D50, 0x10D65, 32, 1),
  (0x118A0, 0x118BF, 32, 1),
  (0x16E40, 0x16E5F, 32, 1),
  (0x16EA0, 0x16EB8, 27, 1),
  (0x1E900, 0x1E921, 34, 1)]

/-- The runs of the `Cased` property. -/
def casedRuns : String := String.join [
  "41,1a,6,1a,2f,1,a,1,4,1,5,17,1,1f,1,c3,1,4,4,d0,2,23,7,2,1e,5,60,1,2a,4,2,2,2,4,1,1,6,1,1,3,1,1,",
  "1,14,1,53,1,8b,8,a6,1,26,9,29,b17,26,1,1,5,1,2,2b,1,4,2a0,56,2,6,882,b,5,2b,2,3,40,c0,40,116,2,",
  "6,2,26,2,6,2,8,1,1,1,1,1,1,1,1f,2,35,1,7,1,1,3,3,1,7,3,4,2,6,4,d,5,3,1,7,74,1,d,1,10,d,65,1,4,1,",
  "2,a,1,1,3,5,6,1,1,1,1,1,1,4,1,6,4,1,2,4,5,5,4,1,11,20,3,2,331,34,716,e5,6,4,3,2,c,26,1,1,5,1,",
  "7912,2e,12,1e,84,66,3,4,1,4d,14,6,1,3,335,2b,1,e,6,50,4f40,7,c,5,409,1a,6,1a,4a5,50,60,24,4,24,",
  "74,b,1,f,1,7,1,2,1,b,1,f,1,7,1,2,1c3,1,2,3,1,2a,1,9,4c5,33,d,33,5d,16,a,16,b1a,40,5560,40,20,19,",
  "2,19,652c,55,1,47,1,2,2,1,2,2,2,4,1,c,1,1,1,7,1,41,1,4,2,8,1,7,1,1c,1,4,1,5,1,1,3,7,1,154,2,19,",
  "1,19,1,1f,1,19,1,1f,1,19,1,1f,1,19,1,1f,1,19,1,8,734,a,1,14,6,6,105,3e,892,44,7ec,1a,6,1a,6,1a,",
  "f0e76"]

/-- The runs of the `Case_Ignorable` property. -/
def caseIgnorableRuns : String := String.join [
  "27,1,6,1,b,1,23,1,1,1,47,1,4,1,1,1,4,1,2,2,1f7,c0,4,2,4,1,9,2,1,1,fb,7,cf,1,5,1,31,2d,1,1,1,2,1,",
  "2,1,1,2c,1,b,6,a,b,1,1,23,1,a,15,10,1,65,8,1,a,1,4,21,1,1,1,1e,1b,5b,b,3a,b,4,1,2,1,18,18,2b,3,",
  "2c,1,7,2,5,9,29,3a,37,1,1,1,4,8,4,1,3,7,a,2,d,1,f,1,3a,1,4,4,8,1,14,2,1a,1,2,2,39,1,4,2,4,2,2,3,",
  "3,1,1e,2,3,1,b,2,39,1,4,5,1,2,4,1,14,2,16,6,1,1,3a,1,2,1,1,4,8,1,7,2,b,2,1e,1,3d,1,c,1,32,1,3,1,",
  "37,1,1,3,5,3,1,4,7,2,b,2,1d,1,3a,1,2,1,6,1,5,2,14,2,1c,2,39,2,4,4,8,1,14,2,1d,1,48,1,7,3,1,1,5a,",
  "1,2,7,b,9,62,1,2,9,9,1,1,7,49,2,1b,1,1,1,1,1,37,e,1,5,1,2,5,b,1,24,9,1,66,4,1,6,1,2,2,2,19,2,4,",
  "3,10,4,d,1,2,2,6,1,f,1,5e,1,260,3,3b2,3,1d,2,1e,2,1e,2,40,2,1,7,8,1,2,b,3,1,5,1,2d,5,33,1,41,2,",
  "22,1,76,3,4,2,9,1,6,3,db,2,2,1,3a,1,1,7,1,1,1,1,2,8,6,a,2,1,27,1,8,2e,2,c,14,4,30,1,1,5,1,1,5,1,",
  "28,9,c,2,20,4,2,2,1,3,38,1,1,2,3,1,1,3,3a,8,2,2,40,6,52,3,1,d,1,7,4,1,6,1,3,2,32,3f,d,1,22,65,",
  "1bd,1,1,3,b,3,d,3,d,3,d,2,c,5,8,2,a,1,2,1,2,5,31,5,1,a,1,1,d,1,10,d,33,21,b8b,2,71,3,7d,1,f,1,",
  "60,20,2f,1,1d5,1,24,4,3,5,5,1,5d,6,5d,3,6f16,1,4e2,6,10e,1,62,4,1,a,1,1,1c,4,50,2,e,22,4e,1,17,",
  "3,66,4,3,2,8,1,3,1,4,1,19,2,5,1,97,2,1a,12,d,1,26,8,19,b,2e,3,30,1,2,4,2,2,11,1,15,2,42,6,2,2,2,",
  "2,c,1,8,1,23,1,b,1,33,1,1,3,2,2,5,2,1,1,1b,1,e,2,5,2,1,1,64,5,9,3,79,1,2,1,4,1,4f30,1,93,11,23d,",
  "10,3,1,c,10,22,1,2,1,a9,1,7,1,6,1,b,1,23,1,1,1,2f,1,2d,2,43,1,15,3,201,1,e2,1,95,5,405,6,1,2a,1,",
  "9,246,3,1,2,5,4,28,3,4,1,a5,2,23d,4,26,1,1a,5,1,1,13b,2,18,1,34,6,46,b,31,4,7b,1,36,f,29,1,2,2,",
  "a,3,31,4,2,2,2,1,4,1,a,1,32,3,24,5,1,8,3e,1,c,2,34,9,a,4,2,1,5f,3,2,1,1,2,6,1,2,1,9d,1,3,8,15,2,",
  "39,2,3,1,25,7,3,5,46,6,d,1,1,1,1,1,e,2,55,8,2,3,1,1,17,1,54,6,1,1,4,2,1,2,ee,4,6,2,1,2,1b,2,55,",
  "8,2,1,1,2,6a,1,1,1,2,6,1,1,65,1,1,1,2,4,1,5,103,9,1,2,100,2,1,1,4,1,90,4,2,2,4,1,20,a,28,6,2,4,",
  "8,1,9,6,2,3,2e,d,1,2,c6,1,1,3,1,1,c9,7,1,6,1,1,52,16,2,7,1,2,1,2,7a,6,3,1,1,2,1,7,1,1,48,2,3,1,",
  "1,1,41,1,119,2,b,2,34,5,5,1,1,1,17,1,14d5,11,6,f,2cc8,c,3,3,9c0,5,3b,7,9,4,1fc,3,28,2,1e2,1,3f,",
  "11,40,2,1,2,d,2,3ffc,4,1,7,1,2,c9e,2,1,4,125c,2e,2,17,220,3,9,10,2,7,1e,4,94,3,7bb,37,4,32,8,1,",
  "e,1,16,5,1,f,550,7,1,11,2,7,1,2,1,5,5,3e,21,1,a0,e,170,1,3d,4,1fb,5,fe,2,f3,1,2,1,7,2,5,1,9,1,",
  "1d0,7,6d,8,aaf,5,c0c01,1,1e,60,80,f0,2fe10"]

/-- Read comma-separated hex run lengths into the first code point of each run,
marked with whether the run is inside the property; `start` is where the next run
begins and `inside` whether it is inside. -/
def readPropertyRuns : List Char → Nat → Nat → Bool → List (Nat × Bool) → List (Nat × Bool)
  | [], _, start, inside, acc => ((start, inside) :: acc).reverse
  | c :: rest, len, start, inside, acc =>
    if c == ',' then readPropertyRuns rest 0 (start + len) (!inside) ((start, inside) :: acc)
    else readPropertyRuns rest (len * 16 + hexDigitValue c) start inside acc

/-- The starts of the runs of a property table. -/
def propertyStarts (runs : String) : Array (Nat × Bool) :=
  (readPropertyRuns runs.toList 0 0 false []).toArray

/-- The run starts of `Cased`. -/
def casedStarts : Array (Nat × Bool) := propertyStarts casedRuns

/-- The run starts of `Case_Ignorable`. -/
def caseIgnorableStarts : Array (Nat × Bool) := propertyStarts caseIgnorableRuns

/-- Whether a code point lies in a run marked inside. -/
def inProperty (starts : Array (Nat × Bool)) (cp : Nat) : Bool :=
  match starts[countStartsUpTo starts cp 0 starts.size - 1]? with
  | some (_, inside) => inside
  | none => false

/-- Whether a code point is cased. -/
def isCased (cp : Nat) : Bool := inProperty casedStarts cp

/-- Whether a code point is case-ignorable. -/
def isCaseIgnorable (cp : Nat) : Bool := inProperty caseIgnorableStarts cp

/-- The lower case of one code point by the runs, or the code point itself. -/
def lowerCodePoint (cp : Nat) : Nat :=
  match lowerRuns.find? fun (first, last, _, stride) =>
      first ≤ cp && cp ≤ last && (cp - first) % stride == 0 with
  | some (_, _, delta, _) => (cp + delta).toNat
  | none => cp

/-- Whether a cased letter comes first in `cps` after any case-ignorable ones. -/
def casedAhead : List Nat → Bool
  | [] => false
  | cp :: rest => if isCaseIgnorable cp then casedAhead rest else isCased cp

/-- The lower case of the pieces of a text; `before` holds the code points already
passed, nearest first. -/
def lowerPieces : List Piece → List Nat → List Char
  | [], _ => []
  | .lone u :: rest, before => loneChar u :: lowerPieces rest (u :: before)
  | .char c :: rest, before =>
    let cp := c.toNat
    let lowered :=
      if cp == 0x130 then ['i', Char.ofNat 0x307]
      else if cp == 0x3A3 then
        if casedAhead before && !casedAhead (rest.map Piece.codePoint) then [Char.ofNat 0x3C2]
        else [Char.ofNat 0x3C3]
      else [Char.ofNat (lowerCodePoint cp)]
    lowered ++ lowerPieces rest (cp :: before)

/-- The lower case of a text. -/
def lower (s : String) : String := String.ofList (lowerPieces (piecesOf s) [])

/-- The upper case of a character when it is ASCII text. -/
def upperCharAscii? (c : Char) : Option (List Char) :=
  let n := c.toNat
  if 0x61 ≤ n ∧ n ≤ 0x7A then some [Char.ofNat (n - 32)]
  else if n < 0x80 then some [c]
  else if n == 0xDF then some ['S', 'S']
  else if n == 0x131 then some ['I']
  else if n == 0x17F then some ['S']
  else if n == 0xFB00 then some ['F', 'F']
  else if n == 0xFB01 then some ['F', 'I']
  else if n == 0xFB02 then some ['F', 'L']
  else if n == 0xFB03 then some ['F', 'F', 'I']
  else if n == 0xFB04 then some ['F', 'F', 'L']
  else if n == 0xFB05 || n == 0xFB06 then some ['S', 'T']
  else none

/-- The upper case of a text when it is ASCII text; `none` when some character's
upper case is not ASCII. -/
def upperAscii? (s : String) : Option String :=
  (s.toList.mapM upperCharAscii?).map fun parts => String.ofList parts.flatten

end ModelTables.Text
