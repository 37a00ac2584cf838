import ModelTables.Naming
import Mathlib.Data.List.Perm.Subperm
import Mathlib.Data.List.Nodup

/-! # Class names are distinct

`assignClassNames` gives every model a class name of its own, whatever the apps
and object names.  An unshared object name occurs once, so it is used once; a
shared one gets a prefixed name outside every name taken before it.  That name
exists by counting: `freeName` tries `taken.length + 1` distinct candidates, and
they cannot all be taken (`freeName_not_mem`).

Main statements: `assignClassNames_nodup`, and `assignClassNames_classNamed`: the names
follow the rule stated by `Stems`, a shared object name taking the first free
candidate (`FirstFree`).
-/

namespace ModelTables.Naming

/-- The `n`-th name `freeName` tries: the prefixed name, then the prefixed name
followed by `2`, `3`, … -/
def candidate (prefixed : String) (n : Nat) : String :=
  if n = 1 then prefixed else prefixed ++ toString n

theorem freeName_succ (taken : List String) (prefixed : String) (fuel n : Nat) :
    freeName taken prefixed (fuel + 1) n =
      if taken.contains (candidate prefixed n) then freeName taken prefixed fuel (n + 1)
      else candidate prefixed n := by
  by_cases first : n = 1
  · subst first
    rfl
  · simp only [freeName, candidate, first, beq_iff_eq, if_false]

theorem candidate_injective (prefixed : String) : Function.Injective (candidate prefixed) := by
  intro m n same
  -- the bare prefix is shorter than every numbered candidate
  have unnumbered : ∀ k : Nat, prefixed ≠ prefixed ++ toString k := by
    intro k numbered
    have empty : prefixed ++ "" = prefixed ++ toString k := by rw [String.append_empty]; exact numbered
    exact Nat.repr_ne_empty ((String.append_right_inj prefixed).mp empty).symm
  unfold candidate at same
  by_cases m1 : m = 1 <;> by_cases n1 : n = 1
  · omega
  · rw [if_pos m1, if_neg n1] at same
    exact absurd same (unnumbered n)
  · rw [if_neg m1, if_pos n1] at same
    exact absurd same.symm (unnumbered m)
  · rw [if_neg m1, if_neg n1, String.append_right_inj] at same
    have sameDigits : Nat.toDigits 10 m = Nat.toDigits 10 n := by
      rw [← Nat.toList_repr, ← Nat.toList_repr]
      exact congrArg String.toList same
    calc m = Nat.ofDigitChars 10 (Nat.toDigits 10 m) 0 := Nat.ofDigitChars_ten_toDigits.symm
      _ = Nat.ofDigitChars 10 (Nat.toDigits 10 n) 0 := by rw [sameDigits]
      _ = n := Nat.ofDigitChars_ten_toDigits

/-- Of the `taken.length + 1` distinct candidates from `1` on, one is free. -/
theorem exists_free_candidate (taken : List String) (prefixed : String) :
    ∃ i < taken.length + 1, candidate prefixed (1 + i) ∉ taken := by
  refine Classical.byContradiction fun allTaken => ?_
  simp only [not_exists, not_and, not_not] at allTaken
  let tried := (List.range (taken.length + 1)).map fun i => candidate prefixed (1 + i)
  have distinct : tried.Nodup := by
    refine List.Nodup.map (fun a b same => ?_) List.nodup_range
    have := candidate_injective prefixed same
    omega
  have within : tried ⊆ taken := by
    intro name member
    obtain ⟨i, range, rfl⟩ := List.mem_map.mp member
    exact allTaken i (List.mem_range.mp range)
  have counted := (distinct.subperm within).length_le
  simp only [tried, List.length_map, List.length_range] at counted
  omega

/-- The `n`-th candidate is the first free one: it is free, and every candidate before
it is taken. -/
def FirstFree (taken : List String) (prefixed : String) (n : Nat) : Prop :=
  1 ≤ n ∧ candidate prefixed n ∉ taken ∧ ∀ k, 1 ≤ k → k < n → candidate prefixed k ∈ taken

/-- Started at `n` with every candidate below `n` taken, `freeName` returns the first
free candidate, when one of the candidates it will try is free. -/
theorem freeName_firstFree {taken : List String} {prefixed : String} :
    ∀ fuel n, 1 ≤ n → (∃ i < fuel, candidate prefixed (n + i) ∉ taken) →
      (∀ k, 1 ≤ k → k < n → candidate prefixed k ∈ taken) →
      ∃ m, freeName taken prefixed fuel n = candidate prefixed m ∧ FirstFree taken prefixed m
  | 0, _, _, ⟨_, bound, _⟩, _ => absurd bound (Nat.not_lt_zero _)
  | fuel + 1, n, start, ⟨i, bound, free⟩, below => by
    rw [freeName_succ]
    by_cases tried : taken.contains (candidate prefixed n)
    · rw [if_pos tried]
      -- the free candidate comes later, so the search goes on to it
      have later : i ≠ 0 := by
        rintro rfl
        exact free (List.contains_iff_mem.mp tried)
      refine freeName_firstFree fuel (n + 1) (by omega) ⟨i - 1, by omega, ?_⟩ fun k low high => ?_
      · rwa [show n + 1 + (i - 1) = n + i by omega]
      · rcases Nat.lt_succ_iff_lt_or_eq.mp high with earlier | rfl
        · exact below k low earlier
        · exact List.contains_iff_mem.mp tried
    · rw [if_neg tried]
      exact ⟨n, rfl, start, by simpa using tried, below⟩

/-- The name a shared model is given is the first free candidate. -/
theorem freeName_eq_firstFree (taken : List String) (prefixed : String) :
    ∃ n, freeName taken prefixed (taken.length + 1) 1 = candidate prefixed n ∧ FirstFree taken prefixed n :=
  freeName_firstFree _ 1 (Nat.le_refl 1) (exists_free_candidate taken prefixed) fun _ low high => absurd high (by omega)

theorem freeName_not_mem (taken : List String) (prefixed : String) :
    freeName taken prefixed (taken.length + 1) 1 ∉ taken := by
  obtain ⟨n, found, -, free, -⟩ := freeName_eq_firstFree taken prefixed
  rw [found]
  exact free

/-! ## The naming fold -/

section Fold

variable {models : List (String × String)} {shared : String → Bool} {unshared : List String}
  (suffix : String)

/-- What naming the models `done` leaves: the class names given are the `stems`
with the suffix; the stems are distinct and taken, the unshared names are taken
from the start, and an unshared name is a stem only once a model of that name is
done. -/
structure Named (unshared : List String) (done : List (String × String)) (taken stems : List String) :
    Prop where
  distinct : stems.Nodup
  stems_taken : ∀ s ∈ stems, s ∈ taken
  unshared_taken : ∀ s ∈ unshared, s ∈ taken
  unshared_done : ∀ s ∈ stems, s ∈ unshared → s ∈ done.map (·.2)
  length : stems.length = done.length

theorem Named.start : Named unshared [] unshared [] :=
  ⟨List.nodup_nil, by simp, fun _ member => member, by simp, rfl⟩

/-- Giving the next model a stem that is new, taken, and unshared only if it is that
model's own object name keeps `Named`. -/
theorem Named.extend {done : List (String × String)} {taken stems taken' : List String}
    {model : String × String} {stem : String} (named : Named unshared done taken stems)
    (grown : ∀ s ∈ taken, s ∈ taken') (stemTaken : stem ∈ taken') (fresh : stem ∉ stems)
    (own : stem ∈ unshared → stem = model.2) :
    Named unshared (done ++ [model]) taken' (stems ++ [stem]) := by
  refine ⟨?_, ?_, fun s member => grown s (named.unshared_taken s member), ?_, ?_⟩
  · rw [← List.concat_eq_append]
    exact named.distinct.concat fresh
  · intro s member
    rcases List.mem_append.mp member with old | new
    · exact grown s (named.stems_taken s old)
    · exact List.mem_singleton.mp new ▸ stemTaken
  · intro s member unsharedS
    rcases List.mem_append.mp member with old | new
    · simpa using Or.inl (named.unshared_done s old unsharedS)
    · rw [List.mem_singleton.mp new] at unsharedS ⊢
      simp [own unsharedS]
  · simp [named.length]

/-- Naming one more model keeps `Named`, when an unshared object name occurs once
among all the models and the unshared names are exactly those. -/
theorem Named.step (unsharedIff : ∀ o, o ∈ unshared ↔ o ∈ models.map (·.2) ∧ shared o = false)
    (once : ∀ o, shared o = false → (models.map (·.2)).count o ≤ 1)
    {done rest : List (String × String)} {app objectName : String}
    (whole : done ++ (app, objectName) :: rest = models) {taken stems : List String}
    (named : Named unshared done taken stems) :
    ∃ taken' stem, nameModel shared suffix (taken, stems.map (· ++ suffix)) (app, objectName) =
      (taken', (stems ++ [stem]).map (· ++ suffix)) ∧
      Named unshared (done ++ [(app, objectName)]) taken' (stems ++ [stem]) := by
  have present : objectName ∈ models.map (·.2) := by
    rw [← whole]
    simp
  rcases sharing : shared objectName
  · -- an unshared name is taken from the start and used by this model only
    have isUnshared : objectName ∈ unshared := (unsharedIff objectName).mpr ⟨present, sharing⟩
    have fresh : objectName ∉ stems := by
      intro used
      have earlier := named.unshared_done objectName used isUnshared
      have twice : 2 ≤ (models.map (·.2)).count objectName := by
        rw [← whole, List.map_append, List.count_append, List.map_cons, List.count_cons_self]
        have := List.count_pos_iff.mpr earlier
        omega
      have := once objectName sharing
      omega
    refine ⟨taken, objectName, by simp [nameModel, sharing], ?_⟩
    exact named.extend (fun _ member => member) (named.unshared_taken _ isUnshared) fresh (fun _ => rfl)
  · -- a shared name gets a prefixed name that nothing has taken, so no unshared name
    let base := freeName taken (pascalCase app ++ objectName) (taken.length + 1) 1
    have fresh : base ∉ taken := freeName_not_mem taken _
    refine ⟨base :: taken, base, by simp [nameModel, sharing, base], ?_⟩
    exact named.extend (fun _ member => List.mem_cons_of_mem _ member) List.mem_cons_self
      (fun used => fresh (named.stems_taken base used))
      (fun unsharedBase => absurd (named.unshared_taken base unsharedBase) fresh)

/-- Naming the rest of the models keeps `Named` up to the whole list. -/
theorem Named.foldl (unsharedIff : ∀ o, o ∈ unshared ↔ o ∈ models.map (·.2) ∧ shared o = false)
    (once : ∀ o, shared o = false → (models.map (·.2)).count o ≤ 1) :
    ∀ (rest done : List (String × String)) (taken stems : List String), done ++ rest = models →
      Named unshared done taken stems →
      ∃ taken' stems', rest.foldl (nameModel shared suffix) (taken, stems.map (· ++ suffix)) =
        (taken', stems'.map (· ++ suffix)) ∧ Named unshared models taken' stems'
  | [], done, taken, stems, whole, named => by
    rw [List.append_nil] at whole
    subst whole
    exact ⟨taken, stems, rfl, named⟩
  | (app, objectName) :: rest, done, taken, stems, whole, named => by
    obtain ⟨taken', stem, stepped, named'⟩ := Named.step suffix unsharedIff once whole named
    rw [List.foldl_cons, stepped]
    exact Named.foldl unsharedIff once rest _ taken' _ (by simp [← whole]) named'

end Fold

/-- The class names are distinct stems, one per model, each followed by the suffix. -/
theorem assignClassNames_stems (models : List (String × String)) (suffix : String) :
    ∃ stems : List String, assignClassNames models suffix = stems.map (· ++ suffix) ∧
      stems.Nodup ∧ stems.length = models.length := by
  let shared : String → Bool := fun name => occurrences (models.map (·.2)) name > 1
  have unsharedIff : ∀ o, o ∈ (models.map (·.2)).filter (fun name => !shared name) ↔
      o ∈ models.map (·.2) ∧ shared o = false := by
    intro o
    simp [List.mem_filter]
  have once : ∀ o, shared o = false → (models.map (·.2)).count o ≤ 1 := by
    intro o single
    simpa [shared, occurrences] using single
  obtain ⟨taken, stems, run, named⟩ :=
    Named.foldl suffix unsharedIff once models [] _ [] rfl Named.start
  exact ⟨stems, congrArg Prod.snd run, named.distinct, named.length⟩

theorem assignClassNames_nodup (models : List (String × String)) (suffix : String) :
    (assignClassNames models suffix).Nodup := by
  obtain ⟨stems, names, distinct, _⟩ := assignClassNames_stems models suffix
  rw [names]
  exact distinct.map fun a b same => (String.append_left_inj suffix).mp same

theorem length_assignClassNames (models : List (String × String)) (suffix : String) :
    (assignClassNames models suffix).length = models.length := by
  obtain ⟨stems, names, _, counted⟩ := assignClassNames_stems models suffix
  rw [names, List.length_map, counted]

/-! ## The naming rule -/

/-- The stems of the class names the naming rule gives models `(app, objectName)`, in
order, from the names taken so far: an unshared object name is its own stem; a
shared one gets the first free candidate of its app in Pascal case followed by the
object name, and that stem is taken from then on. -/
inductive Stems (shared : String → Bool) : List String → List (String × String) → List String → Prop
  | nil (taken : List String) : Stems shared taken [] []
  | unshared {taken : List String} {app objectName : String} {models : List (String × String)}
      {stems : List String} :
      shared objectName = false → Stems shared taken models stems →
      Stems shared taken ((app, objectName) :: models) (objectName :: stems)
  | shared {taken : List String} {app objectName : String} {models : List (String × String)}
      {stems : List String} {n : Nat} :
      shared objectName = true → FirstFree taken (pascalCase app ++ objectName) n →
      Stems shared (candidate (pascalCase app ++ objectName) n :: taken) models stems →
      Stems shared taken ((app, objectName) :: models) (candidate (pascalCase app ++ objectName) n :: stems)

/-- The naming rule for models `(app, objectName)`: an object name is shared when two
of the models have it, the unshared object names are taken from the start, and the
class names are the stems followed by the suffix. -/
def ClassNamed (models : List (String × String)) (suffix : String) (names : List String) : Prop :=
  let objectNames := models.map (·.2)
  let shared (name : String) : Bool := objectNames.count name > 1
  ∃ stems, Stems shared (objectNames.filter fun name => !shared name) models stems ∧
    names = stems.map (· ++ suffix)

/-- Naming the rest of the models after some class names were given appends the
suffixed stems of the rule. -/
theorem foldl_nameModel (shared : String → Bool) (suffix : String) :
    ∀ (models : List (String × String)) (taken given : List String), ∃ stems,
      Stems shared taken models stems ∧
        (models.foldl (nameModel shared suffix) (taken, given)).2 = given ++ stems.map (· ++ suffix)
  | [], taken, given => ⟨[], .nil taken, by simp⟩
  | (app, objectName) :: rest, taken, given => by
    rw [List.foldl_cons]
    cases sharing : shared objectName
    · obtain ⟨stems, stemmed, folded⟩ :=
        foldl_nameModel shared suffix rest taken (given ++ [objectName ++ suffix])
      refine ⟨objectName :: stems, .unshared sharing stemmed, ?_⟩
      simp only [nameModel, sharing, Bool.false_eq_true, if_false, folded]
      simp
    · -- a shared object name takes the first free candidate
      obtain ⟨n, found, first⟩ := freeName_eq_firstFree taken (pascalCase app ++ objectName)
      obtain ⟨stems, stemmed, folded⟩ := foldl_nameModel shared suffix rest
        (candidate (pascalCase app ++ objectName) n :: taken)
        (given ++ [candidate (pascalCase app ++ objectName) n ++ suffix])
      refine ⟨_ :: stems, .shared sharing first stemmed, ?_⟩
      simp only [nameModel, sharing, if_true, found, folded]
      simp

/-- `assignClassNames` follows the naming rule. -/
theorem assignClassNames_classNamed (models : List (String × String)) (suffix : String) :
    ClassNamed models suffix (assignClassNames models suffix) := by
  obtain ⟨stems, stemmed, folded⟩ := foldl_nameModel _ suffix models _ []
  exact ⟨stems, stemmed, by simpa [assignClassNames, occurrences] using folded⟩

end ModelTables.Naming
