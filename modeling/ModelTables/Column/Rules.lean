import ModelTables.Text.Case
import ModelTables.Keyed

/-! # Column rules shared by both renderings

The decisions that the live tables and the generated text take alike:

* `maxLengthFor`: the length of a bounded text column: 39 for IP addresses (the
  longest IPv6 text), else the declared length, else the kind's usual bound
  (`CharField` 255, file kinds 100, `SlugField` 50, `EmailField` 254, `URLField`
  200), else 255;
* `OnDelete.ofTag`: deletion tags match after trimming blanks, upper-casing and
  reading `-` as `_`; an unknown or empty tag cascades;
* `reverseAccessor?`: `+` and an empty or missing name disable the reverse accessor;
* `referenceKind`: a column that references an auto-increment key stores an integer
  of the same width.
-/

namespace ModelTables

/-- The usual bound of a bounded text kind. -/
def defaultMaxLength? (kind : String) : Option Float :=
  match kind with
  | "CharField" => some 255
  | "FileField" => some 100
  | "ImageField" => some 100
  | "FilePathField" => some 100
  | "SlugField" => some 50
  | "EmailField" => some 254
  | "URLField" => some 200
  | _ => none

/-- The length of a bounded text column of a kind. -/
def maxLengthFor (kind : String) (declared : Option Float) : Float :=
  if kind == "GenericIPAddressField" then 39
  else declared.getD ((defaultMaxLength? kind).getD 255)

/-- The length as the table of usual bounds answers a plain property read: like
`maxLengthFor`, except that a kind without a usual bound that names a member every
object inherits finds that member.  Only kinds without a column builder name one,
so `maxLengthFor` is what columns get. -/
def maxLengthLookup (kind : String) (declared : Option Float) : Found Float :=
  if kind == "GenericIPAddressField" then .own 39
  else match declared with
    | some n => .own n
    | none => match defaultMaxLength? kind with
      | some n => .own n
      | none => match Inherited.of? kind with
        | some m => .inherited m
        | none => .own 255

/-- The referential actions of a foreign key. -/
inductive OnDelete where
  | cascade
  | setNull
  | setDefault
  | restrict
  | noAction
  deriving DecidableEq, Repr, Inhabited

namespace OnDelete

/-- The action as the table definition names it. -/
def text : OnDelete → String
  | .cascade => "cascade"
  | .setNull => "set null"
  | .setDefault => "set default"
  | .restrict => "restrict"
  | .noAction => "no action"

/-- The known tags and their actions. -/
def table : Keyed OnDelete :=
  [("CASCADE", .cascade), ("SET_NULL", .setNull), ("SET_DEFAULT", .setDefault),
   ("PROTECT", .restrict), ("RESTRICT", .restrict), ("DO_NOTHING", .noAction)]

/-- The action of a normalised tag: its entry in `table`. -/
def ofKey? (key : String) : Option OnDelete := Keyed.get? table key

/-- The normal form of a tag: trimmed, upper-cased, `-` read as `_`; `none` when
the upper case is not ASCII (no known tag then matches). -/
def normalize? (tag : String) : Option String :=
  (Text.upperAscii? (Text.trim tag)).map fun s => String.ofList (s.toList.map fun c => if c == '-' then '_' else c)

/-- The action of a deletion tag. -/
def ofTag (tag : Option String) : OnDelete :=
  match tag with
  | none => .cascade
  | some t => ((normalize? t).bind ofKey?).getD .cascade

end OnDelete

/-- The reverse accessor name, or `none` when it is disabled. -/
def reverseAccessor? (name : Option String) : Option String :=
  match name with
  | some n => if n.isEmpty || n == "+" then none else some n
  | none => none

/-- The kind of column that stores a reference to a field of `relatedKind`. -/
def referenceKind (relatedKind : Option String) : String :=
  match relatedKind with
  | none => "IntegerField"
  | some "AutoField" => "IntegerField"
  | some "BigAutoField" => "BigIntegerField"
  | some "SmallAutoField" => "SmallIntegerField"
  | some kind => kind

end ModelTables
