import ModelTables.Proofs.Bindings
import ModelTables.Proofs.Units

/-! # Import lines are a canonical form

`renderImports` merges imports into one line per module.  What its lines list is
fixed by which imports occur, and by nothing else (`Code.Canonical`): the modules
imported from, in ascending UTF-16 order, each once; under each module the names
imported from it, in ascending UTF-16 order, each once; and a name marked `type`
exactly when every import of it from that module is type-only.

Groups listed that way are unique (`Canonical.unique`): both orders are strict, and
a name's mark is settled by the imports.  The merge folds the imports into groups
in first-import order, marking a name by a conjunction that starts at `true`
(`Marked`), and then sorts the groups and their names.  Sorting by "not after" gives
a strict order because distinct joined texts have distinct units (`Text.Joined`).

Main statement: `renderImports_canonical`, so the lines do not change when the
imports are reordered or repeated.
-/

namespace ModelTables.Code

/-! ## Lists in a strict order -/

/-- Two lists ordered by an asymmetric relation that hold the same members are equal. -/
theorem eq_of_pairwise_of_mem_iff {α : Type} {r : α → α → Prop} (asymm : ∀ a b, r a b → ¬ r b a)
    {l₁ l₂ : List α} (sorted₁ : l₁.Pairwise r) (sorted₂ : l₂.Pairwise r) (same : ∀ a, a ∈ l₁ ↔ a ∈ l₂) :
    l₁ = l₂ := by
  -- a list in a strict order holds each member once
  have distinct : ∀ {l : List α}, l.Pairwise r → l.Nodup := fun sorted =>
    sorted.imp fun {a b} before equal => by
      subst equal
      exact asymm a a before before
  have reordered := (List.perm_ext_iff_of_nodup (distinct sorted₁) (distinct sorted₂)).mpr same
  exact reordered.eq_of_pairwise (fun a b _ _ ab ba => absurd ba (asymm a b ab)) sorted₁ sorted₂

theorem unitLt_fst_asymm {β : Type} (a b : String × β) (before : Text.unitLt a.1 b.1 = true) :
    ¬ Text.unitLt b.1 a.1 = true := by
  rw [Text.unitLt_asymm before]
  exact Bool.false_ne_true

/-- Sorting by "not after" a list whose keys are distinct joined texts puts the keys in
strictly ascending order. -/
theorem pairwise_unitLt_mergeSort {β : Type} (l : List (String × β)) (distinct : (l.map (·.1)).Nodup)
    (joined : ∀ x ∈ l, Text.Joined x.1) :
    (l.mergeSort fun a b => !Text.unitLt b.1 a.1).Pairwise fun a b => Text.unitLt a.1 b.1 := by
  have sorted : (l.mergeSort fun a b => !Text.unitLt b.1 a.1).Pairwise
      fun a b => (!Text.unitLt b.1 a.1) = true := List.pairwise_mergeSort
    (fun a b c ab bc => by
      rw [Bool.not_eq_true'] at ab bc ⊢
      exact Text.not_unitLt_trans ab bc)
    (fun a b => by
      cases after : Text.unitLt b.1 a.1
      · rfl
      · simp [Text.unitLt_asymm after])
    l
  have keys : ((l.mergeSort fun a b => !Text.unitLt b.1 a.1).map Prod.fst).Nodup :=
    ((List.mergeSort_perm l _).map Prod.fst).nodup_iff.mpr distinct
  have apart : (l.mergeSort fun a b => !Text.unitLt b.1 a.1).Pairwise fun a b => a.1 ≠ b.1 :=
    List.pairwise_map.mp keys
  refine (sorted.and apart).imp_of_mem fun {a b} memberA memberB ordered => ?_
  obtain ⟨notAfter, differ⟩ := ordered
  rcases Text.unitLt_or_unitLt (joined a (List.mem_mergeSort.mp memberA))
      (joined b (List.mem_mergeSort.mp memberB)) differ with before | after
  · exact before
  · simp [after] at notAfter

/-! ## The canonical groups -/

/-- The groups the import lines of some imports list: the modules imported from, in
ascending UTF-16 order, and under each the names imported from it, in ascending
UTF-16 order, each marked type-only exactly when every import of it from that
module is. -/
structure Canonical (imports : List Import) (groups : List (String × List (String × Bool))) : Prop where
  modules_sorted : groups.Pairwise fun g h => Text.unitLt g.1 h.1
  modules : ∀ module, module ∈ groups.map (·.1) ↔ ∃ i ∈ imports, i.module = module
  names_sorted : ∀ g ∈ groups, g.2.Pairwise fun e f => Text.unitLt e.1 f.1
  names : ∀ g ∈ groups, ∀ name, name ∈ g.2.map (·.1) ↔ ∃ i ∈ imports, i.module = g.1 ∧ i.name = name
  typeOnly : ∀ g ∈ groups, ∀ e ∈ g.2,
    e.2 = true ↔ ∀ i ∈ imports, i.module = g.1 → i.name = e.1 → i.typeOnly = true

section Canonical

variable {imports : List Import} {groups groups' : List (String × List (String × Bool))}

/-- An entry of a canonical group is an entry of every canonical group of its module. -/
theorem Canonical.entry_mem (canonical : Canonical imports groups) (canonical' : Canonical imports groups')
    {g g' : String × List (String × Bool)} (member : g ∈ groups) (member' : g' ∈ groups')
    (same : g.1 = g'.1) {e : String × Bool} (entry : e ∈ g.2) : e ∈ g'.2 := by
  have named : e.1 ∈ g'.2.map (·.1) := by
    rw [canonical'.names g' member', ← same, ← canonical.names g member]
    exact List.mem_map_of_mem entry
  obtain ⟨e', entry', sameName⟩ := List.mem_map.mp named
  -- the marks agree, both being settled by the imports of that name
  have sameMark : e'.2 = e.2 := by
    rw [Bool.eq_iff_iff, canonical'.typeOnly g' member' e' entry', canonical.typeOnly g member e entry,
      sameName, same]
  rw [← Prod.ext sameName sameMark]
  exact entry'

theorem Canonical.names_eq (canonical : Canonical imports groups) (canonical' : Canonical imports groups')
    {g g' : String × List (String × Bool)} (member : g ∈ groups) (member' : g' ∈ groups')
    (same : g.1 = g'.1) : g.2 = g'.2 :=
  eq_of_pairwise_of_mem_iff unitLt_fst_asymm (canonical.names_sorted g member)
    (canonical'.names_sorted g' member') fun _ =>
      ⟨canonical.entry_mem canonical' member member' same, canonical'.entry_mem canonical member' member same.symm⟩

/-- A group of one canonical list is a group of every other. -/
theorem Canonical.mem (canonical : Canonical imports groups) (canonical' : Canonical imports groups')
    {g : String × List (String × Bool)} (member : g ∈ groups) : g ∈ groups' := by
  have listed : g.1 ∈ groups'.map (·.1) :=
    (canonical'.modules _).mpr ((canonical.modules _).mp (List.mem_map_of_mem member))
  obtain ⟨g', member', same⟩ := List.mem_map.mp listed
  rw [← Prod.ext same (canonical'.names_eq canonical member' member same)]
  exact member'

/-- The imports have one canonical list of groups. -/
theorem Canonical.unique (canonical : Canonical imports groups) (canonical' : Canonical imports groups') :
    groups = groups' :=
  eq_of_pairwise_of_mem_iff unitLt_fst_asymm canonical.modules_sorted canonical'.modules_sorted
    fun _ => ⟨canonical.mem canonical', canonical'.mem canonical⟩

/-- Canonical groups depend only on which imports occur. -/
theorem Canonical.congr {others : List Import} (same : ∀ i, i ∈ others ↔ i ∈ imports)
    (canonical : Canonical others groups) : Canonical imports groups := by
  obtain ⟨modulesSorted, modules, namesSorted, names, typeOnly⟩ := canonical
  refine ⟨modulesSorted, ?_, namesSorted, ?_, ?_⟩
  · simpa only [same] using modules
  · simpa only [same] using names
  · simpa only [same] using typeOnly

end Canonical

/-! ## Marking the names while grouping -/

section Grouping

variable {imports : List Import} {groups : OrderedMap (OrderedMap Bool)}

/-- A module has one group. -/
theorem Grouped.group_eq (grouped : Grouped imports groups) {module : String} {names names' : OrderedMap Bool}
    (member : (module, names) ∈ groups) (member' : (module, names') ∈ groups) : names = names' :=
  (Prod.mk.inj (List.inj_on_of_nodup_map grouped.modules member member' rfl)).2

/-- The names of a group are the names imported from its module. -/
theorem Grouped.names_iff (grouped : Grouped imports groups) {g : String × OrderedMap Bool} (member : g ∈ groups)
    (name : String) : name ∈ g.2.map (·.1) ↔ ∃ i ∈ imports, i.module = g.1 ∧ i.name = name := by
  rw [← grouped.imported]
  constructor
  · intro listed
    exact ⟨g.2, member, listed⟩
  · rintro ⟨names, member', listed⟩
    rw [grouped.group_eq member member']
    exact listed

/-- A name missing from the group of its module was not imported from it. -/
theorem Grouped.not_imported (grouped : Grouped imports groups) {module name : String} {names : OrderedMap Bool}
    (member : (module, names) ∈ groups) (absent : names.get? name = none) :
    ∀ i ∈ imports, i.module = module → i.name ≠ name := by
  intro i imported sameModule sameName
  obtain ⟨names', member', listed⟩ := (grouped.imported module name).mpr ⟨i, imported, sameModule, sameName⟩
  rw [grouped.group_eq member' member] at listed
  obtain ⟨e, entry, rfl⟩ := List.mem_map.mp listed
  exact OrderedMap.get?_eq_none absent e.2 entry

end Grouping

/-- What grouping some imports knows beyond `Grouped`: its modules are the modules
imported from, and a name is marked type-only exactly when every import of it from
its module is. -/
structure Marked (imports : List Import) (groups : OrderedMap (OrderedMap Bool)) : Prop where
  modules : ∀ module, module ∈ groups.map (·.1) ↔ ∃ i ∈ imports, i.module = module
  marks : ∀ g ∈ groups, ∀ e ∈ g.2,
    e.2 = true ↔ ∀ i ∈ imports, i.module = g.1 → i.name = e.1 → i.typeOnly = true

theorem marked_nil : Marked [] [] := ⟨by simp, by simp⟩

section Step

variable {imports : List Import} {groups : OrderedMap (OrderedMap Bool)} (spec : Import)

/-- A module without a group was not imported from. -/
theorem Marked.not_imported (marked : Marked imports groups) {module : String}
    (found : groups.get? module = none) : ∀ i ∈ imports, i.module ≠ module := by
  intro i imported same
  obtain ⟨g, member, sameKey⟩ := List.mem_map.mp ((marked.modules module).mpr ⟨i, imported, same⟩)
  apply OrderedMap.get?_eq_none found g.2
  rw [← sameKey]
  exact member

/-- The mark a name had before one more import of it, `true` when it had none, says
whether every earlier import of it was type-only. -/
theorem prior_mark (grouped : Grouped imports groups) (marked : Marked imports groups) :
    (((groups.get? spec.module).getD []).get? spec.name).getD true = true ↔
      ∀ i ∈ imports, i.module = spec.module → i.name = spec.name → i.typeOnly = true := by
  rcases found : groups.get? spec.module with _ | names
  · -- nothing was imported from the module
    simp only [Option.getD_none, OrderedMap.get?, List.find?_nil, Option.map_none, true_iff]
    intro i imported same
    exact absurd same (marked.not_imported found i imported)
  · have member := OrderedMap.mem_of_get?_eq_some found
    rw [Option.getD_some]
    rcases named : names.get? spec.name with _ | mark
    · -- the name was not imported from the module
      simp only [Option.getD_none, true_iff]
      intro i imported sameModule sameName
      exact absurd sameName (grouped.not_imported member named i imported sameModule)
    · exact marked.marks _ member _ (OrderedMap.mem_of_get?_eq_some named)

theorem forall_mem_append_spec {holds : Import → Prop} :
    (∀ i ∈ imports ++ [spec], holds i) ↔ (∀ i ∈ imports, holds i) ∧ holds spec := by
  simp only [List.mem_append, List.mem_singleton, or_imp, forall_and, forall_eq]

theorem Marked.add (grouped : Grouped imports groups) (marked : Marked imports groups) :
    Marked (imports ++ [spec]) (addImport groups spec) := by
  refine ⟨fun module => ?_, ?_⟩
  · unfold addImport
    rw [OrderedMap.mem_keys_set, marked.modules]
    simp [or_and_right, exists_or, eq_comm]
  · intro g member e entry
    unfold addImport at member
    rcases OrderedMap.mem_set.mp member with rfl | ⟨old, other⟩
    · rcases OrderedMap.mem_set.mp entry with rfl | ⟨oldEntry, otherName⟩
      · -- the import's own name: the conjunction of its mark and the earlier ones
        simp only [forall_mem_append_spec, Bool.and_eq_true, prior_mark spec grouped marked]
        simp only [forall_const]
        exact and_comm
      · -- another name of the module keeps its mark
        rcases found : groups.get? spec.module with _ | names
        · rw [found] at oldEntry
          simp at oldEntry
        · rw [found, Option.getD_some] at oldEntry
          rw [marked.marks _ (OrderedMap.mem_of_get?_eq_some found) e oldEntry, forall_mem_append_spec]
          simp [Ne.symm otherName]
    · -- a group of another module is untouched
      rw [marked.marks g old e entry, forall_mem_append_spec]
      simp [Ne.symm other]

end Step

theorem marked_foldl :
    ∀ (rest : List Import) {imports : List Import} {groups : OrderedMap (OrderedMap Bool)},
      Grouped imports groups → Marked imports groups → Marked (imports ++ rest) (rest.foldl addImport groups)
  | [], _, _, _, marked => by simpa using marked
  | spec :: rest, imports, groups, grouped, marked => by
    have regrouped : imports ++ spec :: rest = (imports ++ [spec]) ++ rest := by simp
    rw [List.foldl_cons, regrouped]
    exact marked_foldl rest (grouped.add spec) (marked.add spec grouped)

theorem groupImports_marked (imports : List Import) : Marked imports (groupImports imports) := by
  simpa [groupImports_eq_foldl] using marked_foldl imports grouped_nil marked_nil

/-! ## The sorted groups -/

theorem sortedImports_eq (imports : List Import) :
    sortedImports imports = ((groupImports imports).mergeSort fun a b => !Text.unitLt b.1 a.1).map
      fun g => (g.1, g.2.mergeSort fun a b => !Text.unitLt b.1 a.1) :=
  rfl

theorem mem_sortedImports {imports : List Import} {g : String × List (String × Bool)} :
    g ∈ sortedImports imports ↔
      ∃ g₀ ∈ groupImports imports, g = (g₀.1, g₀.2.mergeSort fun a b => !Text.unitLt b.1 a.1) := by
  rw [sortedImports_eq]
  simp [eq_comm]

/-- The groups of the import lines are the canonical groups of the imports. -/
theorem sortedImports_canonical (imports : List Import)
    (joined : ∀ i ∈ imports, Text.Joined i.module ∧ Text.Joined i.name) :
    Canonical imports (sortedImports imports) := by
  have grouped := groupImports_grouped imports
  have marked := groupImports_marked imports
  have joinedModules : ∀ g ∈ groupImports imports, Text.Joined g.1 := fun g member => by
    obtain ⟨i, imported, same⟩ := (marked.modules g.1).mp (List.mem_map_of_mem member)
    exact same ▸ (joined i imported).1
  have joinedNames : ∀ g ∈ groupImports imports, ∀ e ∈ g.2, Text.Joined e.1 := fun g member e entry => by
    obtain ⟨i, imported, -, same⟩ := (grouped.names_iff member e.1).mp (List.mem_map_of_mem entry)
    exact same ▸ (joined i imported).2
  refine ⟨?modulesSorted, ?modules, ?namesSorted, ?names, ?typeOnly⟩
  case modulesSorted =>
    rw [sortedImports_eq, List.pairwise_map]
    exact pairwise_unitLt_mergeSort _ grouped.modules joinedModules
  case modules =>
    intro module
    rw [sortedImports_eq, List.map_map, ← marked.modules]
    exact ((List.mergeSort_perm _ _).map Prod.fst).mem_iff
  case namesSorted =>
    intro g member
    obtain ⟨g₀, member₀, rfl⟩ := mem_sortedImports.mp member
    exact pairwise_unitLt_mergeSort _ (grouped.names g₀ member₀) (joinedNames g₀ member₀)
  case names =>
    intro g member name
    obtain ⟨g₀, member₀, rfl⟩ := mem_sortedImports.mp member
    rw [← grouped.names_iff member₀]
    exact ((List.mergeSort_perm _ _).map Prod.fst).mem_iff
  case typeOnly =>
    intro g member e entry
    obtain ⟨g₀, member₀, rfl⟩ := mem_sortedImports.mp member
    exact marked.marks g₀ member₀ e (List.mem_mergeSort.mp entry)

/-! ## The import lines -/

theorem renderImports_eq_map (imports : List Import) :
    renderImports imports = (sortedImports imports).map fun g => importLine g.1 g.2 :=
  rfl

/-- The import lines of joined texts write out the canonical groups of the imports,
one line per group; so reordering the imports, or repeating some of them, leaves
the lines as they are. -/
theorem renderImports_canonical (imports : List Import)
    (joined : ∀ i ∈ imports, Text.Joined i.module ∧ Text.Joined i.name) :
    Canonical imports (sortedImports imports) ∧
      (∀ groups, Canonical imports groups → renderImports imports = groups.map fun g => importLine g.1 g.2) ∧
      ∀ others : List Import, (∀ i, i ∈ others ↔ i ∈ imports) → renderImports others = renderImports imports := by
  have canonical := sortedImports_canonical imports joined
  have lines : ∀ groups, Canonical imports groups →
      renderImports imports = groups.map fun g => importLine g.1 g.2 := by
    intro groups canonical'
    rw [← canonical.unique canonical']
    exact renderImports_eq_map imports
  refine ⟨canonical, lines, fun others same => ?_⟩
  have joinedOthers : ∀ i ∈ others, Text.Joined i.module ∧ Text.Joined i.name :=
    fun i member => joined i ((same i).mp member)
  rw [lines _ ((sortedImports_canonical others joinedOthers).congr same), renderImports_eq_map]

/-- The imports of a table module: builders and a type from one module, an enum from
another, and one builder imported twice. -/
def tableImports : List Import :=
  [{ module := "drizzle-orm/pg-core", name := "varchar" }, { module := "./enums.js", name := "Status" },
   { module := "drizzle-orm/pg-core", name := "AnyPgColumn", typeOnly := true },
   { module := "drizzle-orm/pg-core", name := "bigint" }, { module := "drizzle-orm/pg-core", name := "varchar" }]

theorem renderImports_canonical_on_table :
    (∀ i ∈ tableImports, Text.Joined i.module ∧ Text.Joined i.name) ∧
      Canonical tableImports (sortedImports tableImports) ∧
      (∀ groups, Canonical tableImports groups →
        renderImports tableImports = groups.map fun g => importLine g.1 g.2) ∧
      ∀ others : List Import, (∀ i, i ∈ others ↔ i ∈ tableImports) →
        renderImports others = renderImports tableImports :=
  ⟨by decide, renderImports_canonical tableImports (by decide)⟩

end ModelTables.Code
