import ModelTables.Column.Rules
import ModelTables.Proofs.Keyed
import Mathlib.Data.List.Forall2
import Mathlib.Data.List.TakeWhile

/-! # Deletion tags

`OnDelete.ofTag` trims a deletion tag, upper-cases it, reads `-` as `_` and looks the
result up in `OnDelete.table`; a tag that finds nothing cascades.

The look-up is a plain property read, which could also find a member that every object
inherits.  It never does: each inherited name holds a lower-case letter, and a normalised
tag holds none (`inherited_of_normalize?`).  So a tag's action is its entry in the table,
or `cascade` when the table has none (`lookup_normalized`).

Letter case, `-` against `_`, and blanks around a tag do not change its action
(`ofTag_congr`).  Two characters are case variants when the simple lower-case map takes
them to one code point.  A case change keeps what a character adds to the normalised tag,
except at the Kelvin sign and the capital sharp s: they lower to `k` and `ß` but have no
ASCII upper case of their own.  A tag holding one of them has no ASCII upper case; its
variant holds `K` or `SS`, which no known tag does; so both cascade.  `foldedChars` gives
the two the upper case of their lower case, and the action is read off that folded form
(`ofTag_eq_folded`).  The lower-case table is checked once (`lowerRuns_keep_keys`): apart
from `A`…`Z` and those two, every run maps characters that are neither blanks nor have an
ASCII upper case to such characters.

Main statement: `ofTag_reads_table_caselessly`.
-/

namespace ModelTables.OnDelete

/-! ## The normalised form -/

/-- What one character of a tag adds to its normalised form: its upper case with `-` read
as `_`, when that upper case is ASCII text. -/
def keyChars (c : Char) : Option (List Char) :=
  (Text.upperCharAscii? c).map (List.map fun c => if c == '-' then '_' else c)

theorem mapM_map_option {α β γ : Type} (f : α → Option β) (g : β → γ) (l : List α) :
    l.mapM (fun a => (f a).map g) = (l.mapM f).map (List.map g) := by
  induction l with
  | nil => rfl
  | cons a rest ih =>
    rw [List.mapM_cons, List.mapM_cons, ih]
    cases f a <;> cases List.mapM f rest <;> rfl

theorem mapM_cons_eq_some {α β : Type} {f : α → Option β} {a : α} {l : List α} {parts : List β} :
    (a :: l).mapM f = some parts ↔ ∃ x xs, f a = some x ∧ l.mapM f = some xs ∧ parts = x :: xs := by
  cases h : f a <;> cases h' : l.mapM f <;> simp [List.mapM_cons, h, h', eq_comm]

theorem exists_of_mapM_eq_some {α β : Type} {f : α → Option β} :
    ∀ {l : List α} {parts : List β}, l.mapM f = some parts → ∀ p ∈ parts, ∃ a ∈ l, f a = some p
  | [], parts, found => by
    simp only [List.mapM_nil, Option.pure_def, Option.some.injEq] at found
    simp [← found]
  | a :: rest, parts, found => by
    obtain ⟨x, xs, first, later, rfl⟩ := mapM_cons_eq_some.mp found
    intro p member
    rcases List.mem_cons.mp member with rfl | inRest
    · exact ⟨a, List.mem_cons_self, first⟩
    · obtain ⟨b, inL, image⟩ := exists_of_mapM_eq_some later p inRest
      exact ⟨b, List.mem_cons_of_mem a inL, image⟩

theorem mapM_keyChars (cs : List Char) :
    cs.mapM keyChars =
      (cs.mapM Text.upperCharAscii?).map (List.map (List.map fun c => if c == '-' then '_' else c)) :=
  mapM_map_option _ _ cs

/-- The normalised tag is what its trimmed characters add, one after another. -/
theorem normalize?_eq (t : String) :
    normalize? t =
      ((Text.trimChars t.toList).mapM keyChars).map fun parts => String.ofList parts.flatten := by
  rw [mapM_keyChars]
  simp only [normalize?, Text.upperAscii?, Text.trim, String.toList_ofList, Option.map_map]
  congr 1
  funext parts
  simp [List.map_flatten]

theorem ofTag_some (t : String) : ofTag (some t) = ((normalize? t).bind ofKey?).getD .cascade := rfl

example : normalize? " do-nothing\n" = some "DO_NOTHING" := by decide

example : normalize? "reﬆrict" = some "RESTRICT" := by decide

/-! ## Reading the table -/

theorem toNat_ofNat_of_valid {n : Nat} (valid : n.isValidChar) : (Char.ofNat n).toNat = n := by
  rw [Char.ofNat, dif_pos valid]
  rfl

theorem isLower_iff (c : Char) : c.isLower = true ↔ 0x61 ≤ c.toNat ∧ c.toNat ≤ 0x7A := by
  show (c.val ≥ 97 && c.val ≤ 122) = true ↔ _
  simp [UInt32.le_iff_toNat_le]

/-- An ASCII upper case holds no lower-case letter. -/
theorem isLower_of_upperCharAscii? {c : Char} {u : List Char} (upper : Text.upperCharAscii? c = some u) :
    ∀ y ∈ u, y.isLower = false := by
  intro y member
  rw [Bool.eq_false_iff, ne_eq, isLower_iff]
  unfold Text.upperCharAscii? at upper
  dsimp only at upper
  by_cases small : 0x61 ≤ c.toNat ∧ c.toNat ≤ 0x7A
  · rw [if_pos small, Option.some.injEq] at upper
    subst upper
    rw [List.mem_singleton.mp member, toNat_ofNat_of_valid (by simp only [Nat.isValidChar]; omega)]
    omega
  · rw [if_neg small] at upper
    by_cases ascii : c.toNat < 0x80
    · rw [if_pos ascii, Option.some.injEq] at upper
      subst upper
      rw [List.mem_singleton.mp member]
      exact small
    · -- the other characters with an ASCII upper case give fixed capitals
      rw [if_neg ascii] at upper
      simp only [ite_eq_iff, Option.some.injEq, reduceCtorEq] at upper
      revert member y
      repeat' rcases upper with ⟨-, rfl⟩ | ⟨-, upper⟩
      all_goals simp

theorem isLower_of_keyChars {c : Char} {part : List Char} (found : keyChars c = some part) :
    ∀ x ∈ part, x.isLower = false := by
  obtain ⟨u, upper, rfl⟩ := Option.map_eq_some_iff.mp found
  intro x member
  obtain ⟨y, inU, rfl⟩ := List.mem_map.mp member
  by_cases dash : y = '-'
  · subst dash
    decide
  · simp only [beq_iff_eq, dash, if_false]
    exact isLower_of_upperCharAscii? upper y inU

theorem isLower_of_normalize? {t k : String} (normalized : normalize? t = some k) :
    ∀ x ∈ k.toList, x.isLower = false := by
  rw [normalize?_eq] at normalized
  obtain ⟨parts, found, rfl⟩ := Option.map_eq_some_iff.mp normalized
  intro x member
  simp only [String.toList_ofList, List.mem_flatten] at member
  obtain ⟨part, inParts, inPart⟩ := member
  obtain ⟨c, -, image⟩ := exists_of_mapM_eq_some found part inParts
  exact isLower_of_keyChars image x inPart

/-- Every member that objects inherit is named with a lower-case letter. -/
theorem isLower_of_inherited {k : String} {m : Inherited} (inherited : Inherited.of? k = some m) :
    ∃ x ∈ k.toList, x.isLower = true := by
  -- the names are few and fixed, so each is checked by evaluation
  unfold Inherited.of? at inherited
  by_cases proto : k = "__proto__"
  · subst proto
    simp
  · rw [if_neg (by simpa using proto)] at inherited
    have named : k ∈ Inherited.methodNames := by
      by_cases listed : Inherited.methodNames.contains k = true
      · exact List.contains_iff_mem.mp listed
      · rw [if_neg listed] at inherited
        cases inherited
    simp only [Inherited.methodNames, List.mem_cons, List.not_mem_nil, or_false] at named
    rcases named with rfl | rfl | rfl | rfl | rfl | rfl | rfl | rfl | rfl | rfl | rfl <;> simp

/-- A normalised tag never names a member that objects inherit. -/
theorem inherited_of_normalize? {t k : String} (normalized : normalize? t = some k) :
    Inherited.of? k = none := by
  cases inherited : Inherited.of? k with
  | none => rfl
  | some m =>
    obtain ⟨x, member, lower⟩ := isLower_of_inherited inherited
    have upperOnly := isLower_of_normalize? normalized x member
    simp [lower] at upperOnly

/-- Reading a normalised tag finds its entry in the table, or nothing. -/
theorem lookup_normalized {t k : String} (normalized : normalize? t = some k) :
    Keyed.lookup table k = match ofKey? k with
      | some a => .own a
      | none => .missing := by
  unfold Keyed.lookup
  cases entry : ofKey? k with
  | some a => rw [show Keyed.get? table k = some a from entry]
  | none => rw [show Keyed.get? table k = none from entry, inherited_of_normalize? normalized]

/-! ## Folding the Kelvin sign and the capital sharp s -/

/-- A folded form with a `K` or two `S` names no known tag. -/
def Stray (k : List Char) : Prop := 'K' ∈ k ∨ 2 ≤ k.count 'S'

instance : DecidablePred Stray := fun k => inferInstanceAs (Decidable ('K' ∈ k ∨ 2 ≤ k.count 'S'))

theorem ofKey?_of_stray {k : List Char} (stray : Stray k) : ofKey? (String.ofList k) = none := by
  cases found : ofKey? (String.ofList k) with
  | none => rfl
  | some a =>
    have member := Keyed.mem_of_get?_eq_some found
    simp only [table, List.mem_cons, Prod.mk.injEq, List.not_mem_nil, or_false] at member
    have known : k ∈ ["CASCADE", "SET_NULL", "SET_DEFAULT", "PROTECT", "RESTRICT",
        "DO_NOTHING"].map String.toList := by
      rcases member with ⟨same, -⟩ | ⟨same, -⟩ | ⟨same, -⟩ | ⟨same, -⟩ | ⟨same, -⟩ | ⟨same, -⟩ <;>
        simp [← same]
    simp only [List.map_cons, List.map_nil, List.mem_cons, List.not_mem_nil, or_false] at known
    -- no known tag has a `K`, and none has two `S`
    exfalso
    rcases known with rfl | rfl | rfl | rfl | rfl | rfl <;> revert stray <;> decide

theorem stray_append_left {x : List Char} (y : List Char) (stray : Stray x) : Stray (x ++ y) := by
  rcases stray with k | s
  · exact .inl (List.mem_append_left y k)
  · exact .inr (by rw [List.count_append]; omega)

theorem stray_append_right (x : List Char) {y : List Char} (stray : Stray y) : Stray (x ++ y) := by
  rcases stray with k | s
  · exact .inl (List.mem_append_right x k)
  · exact .inr (by rw [List.count_append]; omega)

/-- `keyChars`, except that the Kelvin sign and the capital sharp s add the ASCII upper case
of their lower case, `K` and `SS`. -/
def foldedChars (c : Char) : Option (List Char) :=
  if c.toNat = 0x212A then some ['K'] else if c.toNat = 0x1E9E then some ['S', 'S'] else keyChars c

/-- Folding changes the normalised form only of a tag that has none, and the folded form then
names no known tag. -/
theorem mapM_keyChars_or_stray (cs : List Char) :
    cs.mapM keyChars = cs.mapM foldedChars ∨
      (cs.mapM keyChars = none ∧ ∀ parts, cs.mapM foldedChars = some parts → Stray parts.flatten) := by
  induction cs with
  | nil => exact .inl rfl
  | cons c rest ih =>
    -- a folded character decides the whole form at once; any other passes the tail's case on
    by_cases folded : c.toNat = 0x212A ∨ c.toNat = 0x1E9E
    · have unkeyed : keyChars c = none := by
        rcases folded with h | h <;> simp [keyChars, Text.upperCharAscii?, h]
      refine .inr ⟨by simp [List.mapM_cons, unkeyed], fun parts found => ?_⟩
      obtain ⟨x, xs, first, -, rfl⟩ := mapM_cons_eq_some.mp found
      have strayFirst : Stray x := by
        rcases folded with h | h <;> simp [foldedChars, h] at first <;> subst first <;> decide
      exact stray_append_left _ strayFirst
    · have same : foldedChars c = keyChars c := by
        simp [foldedChars, not_or.mp folded]
      rcases ih with ih | ⟨unkeyed, stray⟩
      · exact .inl (by simp [List.mapM_cons, same, ih])
      · refine .inr ⟨by simp [List.mapM_cons, unkeyed], fun parts found => ?_⟩
        obtain ⟨x, xs, -, restFound, rfl⟩ := mapM_cons_eq_some.mp found
        exact stray_append_right x (stray xs restFound)

/-- A tag's action, read off the folded form of its trimmed characters. -/
theorem ofTag_eq_folded (t : String) :
    ofTag (some t) = (((Text.trimChars t.toList).mapM foldedChars).bind fun parts =>
      ofKey? (String.ofList parts.flatten)).getD .cascade := by
  rw [ofTag_some, normalize?_eq]
  rcases mapM_keyChars_or_stray (Text.trimChars t.toList) with same | ⟨unkeyed, stray⟩
  · rw [same, Option.bind_map]
    rfl
  · rw [unkeyed]
    cases found : (Text.trimChars t.toList).mapM foldedChars with
    | none => rfl
    | some parts => simp [ofKey?_of_stray (stray parts found)]

/-! ## Case variants -/

/-- What a character decides about a tag's action: whether trimming removes it, and what it
adds to the folded form. -/
def keyClass (c : Char) : Bool × Option (List Char) := (Text.isBlank c, foldedChars c)

/-- The code points whose class a case change could alter: ASCII, the blanks, the characters
with an ASCII upper case, the Kelvin sign and the capital sharp s. -/
def keyRanges : List (Nat × Nat) :=
  [(0, 0x7F), (0xA0, 0xA0), (0xDF, 0xDF), (0x131, 0x131), (0x17F, 0x17F), (0x1680, 0x1680),
   (0x1E9E, 0x1E9E), (0x2000, 0x200A), (0x2028, 0x2029), (0x202F, 0x202F), (0x205F, 0x205F),
   (0x212A, 0x212A), (0x3000, 0x3000), (0xFB00, 0xFB06), (0xFEFF, 0xFEFF)]

/-- Whether the code points `lo`…`hi` miss every range of `keyRanges`. -/
def clearOfKeys (lo hi : Int) : Bool := keyRanges.all fun r => hi < r.1 || r.2 < lo

/-- Whether the code points `lo`…`hi` are all characters. -/
def validRange (lo hi : Int) : Bool := 0 ≤ lo && (hi < 0xD800 || 0xDFFF < lo && hi < 0x110000)

/-- The runs of the lower-case map that touch `keyRanges`: `A`…`Z`, the capital sharp s and the
Kelvin sign. -/
def keyRuns : List (Nat × Nat × Int × Nat) :=
  [(0x41, 0x5A, 32, 1), (0x1E9E, 0x1E9E, -7615, 1), (0x212A, 0x212A, -8383, 1)]

/-- A run of the lower-case map is one of `keyRuns`, or maps characters outside `keyRanges`
to characters outside them. -/
def runKeepsKeys (r : Nat × Nat × Int × Nat) : Bool :=
  keyRuns.contains r ||
    clearOfKeys r.1 r.2.1 && clearOfKeys (r.1 + r.2.2.1) (r.2.1 + r.2.2.1) &&
      validRange (r.1 + r.2.2.1) (r.2.1 + r.2.2.1)

theorem lowerRuns_keep_keys : Text.lowerRuns.all runKeepsKeys = true := by decide +kernel

theorem keyRuns_keep_class : ∀ r ∈ keyRuns, ∀ i < r.2.1 + 1 - r.1,
    keyClass (Char.ofNat ((((r.1 + i : Nat) : Int) + r.2.2.1).toNat)) = keyClass (Char.ofNat (r.1 + i)) := by
  decide +kernel

/-- A character outside `keyRanges` is no blank and has no ASCII upper case. -/
theorem unkeyed_of_clear {lo hi : Int} (clear : clearOfKeys lo hi = true) {c : Char}
    (above : lo ≤ c.toNat) (below : c.toNat ≤ hi) :
    foldedChars c = none ∧ Text.isBlank c = false := by
  simp only [clearOfKeys, keyRanges, List.all_cons, List.all_nil, Bool.and_true, Bool.and_eq_true,
    Bool.or_eq_true, decide_eq_true_eq] at clear
  simp (disch := omega) only [foldedChars, keyChars, Text.upperCharAscii?, Text.isBlank, if_neg,
    Bool.or_eq_true, beq_iff_eq, Option.map_none, true_and, Bool.or_eq_false_iff,
    decide_eq_false_iff_not, beq_eq_false_iff_ne]
  omega

theorem lowerCodePoint_cases (cp : Nat) :
    Text.lowerCodePoint cp = cp ∨ ∃ r ∈ Text.lowerRuns,
      r.1 ≤ cp ∧ cp ≤ r.2.1 ∧ Text.lowerCodePoint cp = ((cp : Int) + r.2.2.1).toNat := by
  unfold Text.lowerCodePoint
  split
  · rename_i first last delta stride found
    have holds := List.find?_some found
    simp only [Bool.and_eq_true, decide_eq_true_eq] at holds
    exact .inr ⟨_, List.mem_of_find?_eq_some found, holds.1.1, holds.1.2, rfl⟩
  · exact .inl rfl

/-- Lower-casing a character keeps its class. -/
theorem keyClass_lower (c : Char) : keyClass (Char.ofNat (Text.lowerCodePoint c.toNat)) = keyClass c := by
  rcases lowerCodePoint_cases c.toNat with same | ⟨r, member, above, below, lowered⟩
  · rw [same, Char.ofNat_toNat]
  · rw [lowered]
    have keeps := List.all_eq_true.mp lowerRuns_keep_keys r member
    simp only [runKeepsKeys, Bool.or_eq_true, Bool.and_eq_true] at keeps
    rcases keeps with key | ⟨⟨domain, image⟩, valid⟩
    · -- `A`…`Z`, the capital sharp s and the Kelvin sign are checked one by one
      have checked := keyRuns_keep_class r (List.contains_iff_mem.mp key) (c.toNat - r.1) (by omega)
      rwa [Nat.add_sub_cancel' above, Char.ofNat_toNat] at checked
    · simp only [validRange, Bool.and_eq_true, Bool.or_eq_true, decide_eq_true_eq] at valid
      have imageChar : (Char.ofNat ((c.toNat : Int) + r.2.2.1).toNat).toNat =
          ((c.toNat : Int) + r.2.2.1).toNat := by
        apply toNat_ofNat_of_valid
        simp only [Nat.isValidChar]
        omega
      obtain ⟨unfolded, unblank⟩ := unkeyed_of_clear domain (c := c) (by omega) (by omega)
      obtain ⟨imageUnfolded, imageUnblank⟩ := unkeyed_of_clear image
        (c := Char.ofNat ((c.toNat : Int) + r.2.2.1).toNat) (by rw [imageChar]; omega)
        (by rw [imageChar]; omega)
      simp only [keyClass, unfolded, unblank, imageUnfolded, imageUnblank]

/-- Two characters that one place of two tags of the same action may hold: case variants,
which lower to one code point, or `-` and `_`. -/
def Alike (a b : Char) : Prop :=
  Text.lowerCodePoint a.toNat = Text.lowerCodePoint b.toNat ∨ (a = '-' ∧ b = '_') ∨ (a = '_' ∧ b = '-')

instance : DecidableRel Alike := fun a b =>
  inferInstanceAs (Decidable (Text.lowerCodePoint a.toNat = Text.lowerCodePoint b.toNat ∨
    (a = '-' ∧ b = '_') ∨ (a = '_' ∧ b = '-')))

theorem keyClass_of_alike {a b : Char} (alike : Alike a b) : keyClass a = keyClass b := by
  rcases alike with sameLower | ⟨rfl, rfl⟩ | ⟨rfl, rfl⟩
  · rw [← keyClass_lower a, ← keyClass_lower b, sameLower]
  · decide
  · decide

/-! ## Trimming -/

section Trimming

variable {α β : Type} {R : α → β → Prop}

theorem forall₂_dropWhile {p : α → Bool} {q : β → Bool} (agree : ∀ a b, R a b → p a = q b) :
    ∀ {l₁ : List α} {l₂ : List β}, List.Forall₂ R l₁ l₂ →
      List.Forall₂ R (l₁.dropWhile p) (l₂.dropWhile q)
  | _, _, .nil => .nil
  | a :: l₁, b :: l₂, .cons related rest => by
    rw [List.dropWhile_cons, List.dropWhile_cons, agree a b related]
    split
    · exact forall₂_dropWhile agree rest
    · exact .cons related rest

end Trimming

theorem forall₂_trimChars {cs ds : List Char}
    (alike : List.Forall₂ (fun a b => keyClass a = keyClass b) cs ds) :
    List.Forall₂ (fun a b => keyClass a = keyClass b) (Text.trimChars cs) (Text.trimChars ds) := by
  have blank : ∀ a b : Char, keyClass a = keyClass b → Text.isBlank a = Text.isBlank b :=
    fun _ _ same => congrArg Prod.fst same
  -- trimming drops blanks in front, reverses, drops blanks in front again and reverses back
  unfold Text.trimChars
  rw [List.forall₂_reverse_iff]
  exact forall₂_dropWhile blank (List.forall₂_reverse_iff.mpr (forall₂_dropWhile blank alike))

theorem trimChars_blank_prefix {pre : List Char} (blank : ∀ c ∈ pre, Text.isBlank c = true)
    (cs : List Char) : Text.trimChars (pre ++ cs) = Text.trimChars cs := by
  have dropped : (pre ++ cs).dropWhile Text.isBlank = cs.dropWhile Text.isBlank := by
    rw [List.dropWhile_append, if_pos (by simp [List.dropWhile_eq_nil_iff.mpr blank])]
  rw [Text.trimChars, dropped, Text.trimChars]

theorem trimChars_blank_suffix {post : List Char} (blank : ∀ c ∈ post, Text.isBlank c = true)
    (cs : List Char) : Text.trimChars (cs ++ post) = Text.trimChars cs := by
  unfold Text.trimChars
  rw [List.dropWhile_append]
  -- either everything before the blank end is blank too, or the end is dropped from the back
  split
  · rename_i allBlank
    rw [List.dropWhile_eq_nil_iff.mpr blank, List.isEmpty_iff.mp allBlank]
  · rw [List.reverse_append, List.dropWhile_append,
      if_pos (by simp [List.dropWhile_eq_nil_iff.mpr (fun c inRev => blank c (List.mem_reverse.mp inRev))])]

theorem mapM_foldedChars_congr :
    ∀ {cs ds : List Char}, List.Forall₂ (fun a b => keyClass a = keyClass b) cs ds →
      cs.mapM foldedChars = ds.mapM foldedChars
  | _, _, .nil => rfl
  | a :: _, b :: _, .cons same rest => by
    rw [List.mapM_cons, List.mapM_cons, mapM_foldedChars_congr rest,
      show foldedChars a = foldedChars b from congrArg Prod.snd same]

theorem trimChars_blank_around {pre post : String} (blankPre : ∀ c ∈ pre.toList, Text.isBlank c = true)
    (blankPost : ∀ c ∈ post.toList, Text.isBlank c = true) (s : String) :
    Text.trimChars (pre ++ s ++ post).toList = Text.trimChars s.toList := by
  rw [String.toList_append, String.toList_append, trimChars_blank_suffix blankPost,
    trimChars_blank_prefix blankPre]

/-- Blanks around a tag do not change its action. -/
theorem ofTag_blank_around {pre post : String} (blankPre : ∀ c ∈ pre.toList, Text.isBlank c = true)
    (blankPost : ∀ c ∈ post.toList, Text.isBlank c = true) (s : String) :
    ofTag (some (pre ++ s ++ post)) = ofTag (some s) := by
  rw [ofTag_eq_folded, ofTag_eq_folded, trimChars_blank_around blankPre blankPost]

/-- Tags that differ in letter case or in `-` against `_` have one action. -/
theorem ofTag_alike {s₁ s₂ : String} (alike : List.Forall₂ Alike s₁.toList s₂.toList) :
    ofTag (some s₁) = ofTag (some s₂) := by
  rw [ofTag_eq_folded, ofTag_eq_folded,
    mapM_foldedChars_congr (forall₂_trimChars (alike.imp fun _ _ => keyClass_of_alike))]

/-- Tags that differ in letter case, in `-` against `_`, or in the blanks around them have
one action. -/
theorem ofTag_congr {pre₁ s₁ post₁ pre₂ s₂ post₂ : String}
    (blanks : ∀ c ∈ (pre₁ ++ post₁ ++ pre₂ ++ post₂).toList, Text.isBlank c = true)
    (alike : List.Forall₂ Alike s₁.toList s₂.toList) :
    ofTag (some (pre₁ ++ s₁ ++ post₁)) = ofTag (some (pre₂ ++ s₂ ++ post₂)) := by
  have blankIn : ∀ {part : String}, (∀ c ∈ part.toList, c ∈ (pre₁ ++ post₁ ++ pre₂ ++ post₂).toList) →
      ∀ c ∈ part.toList, Text.isBlank c = true := fun within c member => blanks c (within c member)
  rw [ofTag_blank_around (blankIn fun c m => by simp [m]) (blankIn fun c m => by simp [m]),
    ofTag_blank_around (blankIn fun c m => by simp [m]) (blankIn fun c m => by simp [m]),
    ofTag_alike alike]

/-! ## Main statement -/

theorem ofTag_of_normalize?_eq_none {t : String} (unnormal : normalize? t = none) :
    ofTag (some t) = .cascade := by
  rw [ofTag_some, unnormal]
  rfl

/-- A known tag finds its own entry, and that entry is its action. -/
theorem lookup_known {t k : String} (normalized : normalize? t = some k) (known : k ∈ table.keys) :
    Keyed.lookup table k = .own (ofTag (some t)) := by
  obtain ⟨a, found⟩ := Option.isSome_iff_exists.mp (Keyed.get?_isSome_of_mem_keys known)
  have action : ofTag (some t) = a := by
    rw [ofTag_some, normalized]
    exact congrArg (·.getD .cascade) found
  rw [lookup_normalized normalized, show ofKey? k = some a from found, action]

/-- Any other normalised tag finds nothing and cascades. -/
theorem lookup_unknown {t k : String} (normalized : normalize? t = some k) (unknown : k ∉ table.keys) :
    Keyed.lookup table k = .missing ∧ ofTag (some t) = .cascade := by
  have absent : ofKey? k = none := Keyed.get?_eq_none_of_not_mem_keys unknown
  refine ⟨by rw [lookup_normalized normalized, absent], ?_⟩
  rw [ofTag_some, normalized, Option.bind_some, absent]
  rfl

/-- A missing or empty tag cascades.  A tag whose upper case is not ASCII text cascades.
Otherwise its normalised form is read from the table as a plain property read: a known tag
finds its own entry, which is the tag's action, and any other finds nothing (never an
inherited member) and cascades.  Tags that differ in letter case, in `-` against `_`, or in
the blanks around them have one action. -/
theorem ofTag_reads_table_caselessly :
    ofTag none = .cascade ∧ ofTag (some "") = .cascade ∧
    (∀ t, normalize? t = none → ofTag (some t) = .cascade) ∧
    (∀ t k, normalize? t = some k →
      (k ∈ table.keys → Keyed.lookup table k = .own (ofTag (some t))) ∧
      (k ∉ table.keys → Keyed.lookup table k = .missing ∧ ofTag (some t) = .cascade)) ∧
    (∀ pre₁ s₁ post₁ pre₂ s₂ post₂ : String,
      (∀ c ∈ (pre₁ ++ post₁ ++ pre₂ ++ post₂).toList, Text.isBlank c = true) →
      List.Forall₂ Alike s₁.toList s₂.toList →
      ofTag (some (pre₁ ++ s₁ ++ post₁)) = ofTag (some (pre₂ ++ s₂ ++ post₂))) :=
  ⟨rfl, by decide, fun _ => ofTag_of_normalize?_eq_none,
    fun _ _ normalized => ⟨lookup_known normalized, lookup_unknown normalized⟩,
    fun _ _ _ _ _ _ => ofTag_congr⟩

/-- A spelling of `SET_NULL` in lower case, with a dash and blanks around it, has the action
of `SET_NULL`. -/
theorem ofTag_padded_set_null :
    (∀ c ∈ (" " ++ "\t" ++ "" ++ "").toList, Text.isBlank c = true) ∧
    List.Forall₂ Alike "set-null".toList "SET_NULL".toList ∧
    ofTag (some (" " ++ "set-null" ++ "\t")) = ofTag (some ("" ++ "SET_NULL" ++ "")) := by
  have blanks : ∀ c ∈ (" " ++ "\t" ++ "" ++ "").toList, Text.isBlank c = true := by
    simp [Text.isBlank]
  have alike : List.Forall₂ Alike "set-null".toList "SET_NULL".toList := by decide +kernel
  exact ⟨blanks, alike, ofTag_reads_table_caselessly.2.2.2.2 " " "set-null" "\t" "" "SET_NULL" ""
    blanks alike⟩

end ModelTables.OnDelete
