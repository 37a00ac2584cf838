import ModelTables.Session
import ModelTables.Proofs.References
import ModelTables.Proofs.Registry
import Mathlib.Data.List.Nodup

/-! # The names a generated module binds

A generated module binds, at top level, every name its import lines import, `bytea`
when a model needs the binary column declaration, and for each of its models the
class name `C` of its table and the name `CMeta` of its metadata block
(`Code.bindings`).

Some of these are kept apart by construction:

* `groupImports` makes one group per module and names each imported name once in
  its group (`groupImports_grouped`), so the import lines repeat a name exactly when
  one name is imported from two modules (`importedNames_nodup_iff`);
* the class names of a plan are distinct (`plan_described`) and the models of a
  module are rendered models of one plan, so the class names of a module, and its
  metadata names, are distinct.

Nothing keeps the kinds apart from each other.  A class name may be a name a
builder module exports (model `pg` is named `pgTable`), an enum may be named like a
builder or a class, and with an empty suffix a model `XMeta` is named like the
metadata block of a model `X`.  `generated_bindings_distinct_iff` states exactly
when a generated module binds no name twice, and `pg_model_binds_pgTable_twice`
shows the first collision.
-/

namespace ModelTables

/-! ## Setting a key of an ordered map -/

namespace OrderedMap

variable {α : Type}

theorem mem_keys_set (m : OrderedMap α) (key : String) (v : α) (k : String) :
    k ∈ (m.set key v).map (·.1) ↔ k ∈ m.map (·.1) ∨ k = key := by
  have present : m.any (·.1 == key) = true ↔ key ∈ m.map (·.1) := by simp
  unfold set
  by_cases found : key ∈ m.map (·.1)
  · -- the entries of `key` are replaced in place, so every key stays
    rw [if_pos (present.mpr found), List.map_map]
    have sameKeys : m.map ((·.1) ∘ fun e => if e.1 == key then (key, v) else e) = m.map (·.1) :=
      List.map_congr_left fun e _ => by by_cases same : e.1 = key <;> simp [same]
    rw [sameKeys]
    constructor
    · exact .inl
    · rintro (old | rfl)
      · exact old
      · exact found
  · rw [if_neg (mt present.mp found)]
    simp

theorem nodup_keys_set {m : OrderedMap α} (distinct : (m.map (·.1)).Nodup) (key : String) (v : α) :
    ((m.set key v).map (·.1)).Nodup := by
  have present : m.any (·.1 == key) = true ↔ key ∈ m.map (·.1) := by simp
  unfold set
  split
  case isTrue =>
    rw [List.map_map]
    have sameKeys : m.map ((·.1) ∘ fun e => if e.1 == key then (key, v) else e) = m.map (·.1) :=
      List.map_congr_left fun e _ => by by_cases same : e.1 = key <;> simp [same]
    rw [sameKeys]
    exact distinct
  case isFalse absent =>
    rw [List.map_append, List.nodup_append]
    refine ⟨distinct, List.nodup_singleton _, fun k old b single same => absent (present.mpr ?_)⟩
    rw [same, List.mem_singleton.mp single] at old
    exact old

/-- An entry of a map after setting a key is the new entry, or an old entry of
another key. -/
theorem mem_set {m : OrderedMap α} {key : String} {v : α} {entry : String × α} :
    entry ∈ m.set key v ↔ entry = (key, v) ∨ entry ∈ m ∧ entry.1 ≠ key := by
  unfold set
  split
  case isTrue present =>
    obtain ⟨old, held, same⟩ := List.any_eq_true.mp present
    simp only [List.mem_map]
    constructor
    · rintro ⟨e, member, rfl⟩
      by_cases replaced : e.1 = key
      · simp [replaced]
      · simp [replaced, member]
    · rintro (rfl | ⟨member, other⟩)
      · exact ⟨old, held, by simp [beq_iff_eq.mp same]⟩
      · exact ⟨entry, member, by simp [other]⟩
  case isFalse absent =>
    -- no old entry has the key
    have fresh : ∀ e ∈ m, e.1 ≠ key := fun e member same =>
      absent (List.any_eq_true.mpr ⟨e, member, by simp [same]⟩)
    simp only [List.mem_append, List.mem_singleton]
    constructor
    · rintro (member | rfl)
      · exact .inr ⟨member, fresh _ member⟩
      · exact .inl rfl
    · rintro (rfl | ⟨member, -⟩)
      · exact .inr rfl
      · exact .inl member

theorem mem_set_self {m : OrderedMap α} {key : String} {v w : α} : (key, w) ∈ m.set key v ↔ w = v := by
  simp [mem_set]

theorem mem_set_of_ne {m : OrderedMap α} {key k : String} {v w : α} (other : k ≠ key) :
    (k, w) ∈ m.set key v ↔ (k, w) ∈ m := by
  simp [mem_set, other]

/-- An ordered map looks a key up as a keyed list does: the first entry of the key. -/
theorem mem_of_get?_eq_some {m : OrderedMap α} {key : String} {v : α} (found : m.get? key = some v) :
    (key, v) ∈ m :=
  @Keyed.mem_of_get?_eq_some α m key v found

theorem get?_eq_none {m : OrderedMap α} {key : String} (missing : m.get? key = none) (v : α) :
    (key, v) ∉ m := by
  intro member
  simp only [get?, Option.map_eq_none_iff, List.find?_eq_none, beq_iff_eq] at missing
  exact missing _ member rfl

end OrderedMap

/-! ## Grouping imports by module -/

namespace Code

/-- One step of `groupImports`: the import's name joins the group of its module. -/
def addImport (groups : OrderedMap (OrderedMap Bool)) (spec : Import) : OrderedMap (OrderedMap Bool) :=
  let names := (groups.get? spec.module).getD []
  groups.set spec.module (names.set spec.name (spec.typeOnly && (names.get? spec.name).getD true))

theorem groupImports_eq_foldl (imports : List Import) : groupImports imports = imports.foldl addImport [] :=
  rfl

/-- Groups of some imports: one per module, each naming every name once, together
naming exactly the imported names under their modules. -/
structure Grouped (imports : List Import) (groups : OrderedMap (OrderedMap Bool)) : Prop where
  modules : (groups.map (·.1)).Nodup
  names : ∀ g ∈ groups, (g.2.map (·.1)).Nodup
  imported : ∀ module name, (∃ names, (module, names) ∈ groups ∧ name ∈ names.map (·.1)) ↔
    ∃ i ∈ imports, i.module = module ∧ i.name = name

theorem grouped_nil : Grouped [] [] :=
  ⟨List.nodup_nil, by simp, by simp⟩

theorem exists_import_append {imports : List Import} {spec : Import} {module name : String} :
    (∃ i ∈ imports ++ [spec], i.module = module ∧ i.name = name) ↔
      (∃ i ∈ imports, i.module = module ∧ i.name = name) ∨ spec.module = module ∧ spec.name = name := by
  simp [or_and_right, exists_or]

theorem Grouped.add {imports : List Import} {groups : OrderedMap (OrderedMap Bool)}
    (grouped : Grouped imports groups) (spec : Import) :
    Grouped (imports ++ [spec]) (addImport groups spec) := by
  obtain ⟨modules, names, imported⟩ := grouped
  -- the group the import joins, empty when its module is new
  have current : ((groups.get? spec.module).getD [] |>.map (·.1)).Nodup ∧
      ∀ name, name ∈ ((groups.get? spec.module).getD []).map (·.1) ↔
        ∃ ns, (spec.module, ns) ∈ groups ∧ name ∈ ns.map (·.1) := by
    rcases found : groups.get? spec.module with _ | ns
    · exact ⟨List.nodup_nil, fun name => by simp [OrderedMap.get?_eq_none found]⟩
    · have member := OrderedMap.mem_of_get?_eq_some found
      refine ⟨names _ member, fun name => ⟨fun named => ⟨ns, member, named⟩, ?_⟩⟩
      rintro ⟨ns', member', named⟩
      have same := List.inj_on_of_nodup_map modules member member' rfl
      rw [(Prod.mk.inj same).2]
      exact named
  refine ⟨OrderedMap.nodup_keys_set modules _ _, ?names, ?imported⟩
  case names =>
    intro g member
    rcases OrderedMap.mem_set.mp member with rfl | ⟨old, -⟩
    · exact OrderedMap.nodup_keys_set current.1 _ _
    · exact names g old
  case imported =>
    intro module name
    rw [exists_import_append, ← imported]
    by_cases here : module = spec.module
    · -- the module's group is the joined group
      subst here
      simp only [addImport, OrderedMap.mem_set_self, exists_eq_left, OrderedMap.mem_keys_set, current.2,
        true_and]
      exact or_congr_right eq_comm
    · simp only [addImport, OrderedMap.mem_set_of_ne here, Ne.symm here, false_and, or_false]

theorem grouped_foldl :
    ∀ (rest : List Import) {imports : List Import} {groups : OrderedMap (OrderedMap Bool)},
      Grouped imports groups → Grouped (imports ++ rest) (rest.foldl addImport groups)
  | [], _, _, grouped => by simpa using grouped
  | spec :: rest, imports, groups, grouped => by
    have regrouped : imports ++ spec :: rest = (imports ++ [spec]) ++ rest := by simp
    rw [List.foldl_cons, regrouped]
    exact grouped_foldl rest (grouped.add spec)

theorem groupImports_grouped (imports : List Import) : Grouped imports (groupImports imports) := by
  simpa [groupImports_eq_foldl] using grouped_foldl imports grouped_nil

/-- The module and the name of every name in some groups. -/
def groupPairs (groups : OrderedMap (OrderedMap Bool)) : List (String × String) :=
  groups.flatMap fun g => g.2.map fun n => (g.1, n.1)

section Pairs

variable {imports : List Import} {groups : OrderedMap (OrderedMap Bool)}

theorem Grouped.mem_pairs (grouped : Grouped imports groups) {pair : String × String} :
    pair ∈ groupPairs groups ↔ ∃ i ∈ imports, i.module = pair.1 ∧ i.name = pair.2 := by
  rw [← grouped.imported]
  simp only [groupPairs, List.mem_flatMap, List.mem_map]
  constructor
  · rintro ⟨g, member, n, named, rfl⟩
    exact ⟨g.2, member, n, named, rfl⟩
  · rintro ⟨ns, member, n, named, same⟩
    exact ⟨_, member, n, named, by rw [same]⟩

theorem Grouped.pairs_nodup (grouped : Grouped imports groups) : (groupPairs groups).Nodup := by
  refine List.nodup_flatMap.mpr ⟨fun g member => ?_, ?_⟩
  · -- within a group the pairs share the module and differ in the name
    have paired : (g.2.map fun n => (g.1, n.1)) = (g.2.map (·.1)).map (Prod.mk g.1) := by
      simp [Function.comp_def]
    rw [paired]
    exact (grouped.names g member).map fun a b same => (Prod.mk.inj same).2
  · -- two groups are of two modules
    refine (List.pairwise_map.mp grouped.modules).imp fun {g h} apart => ?_
    intro pair inG inH
    obtain ⟨n, -, rfl⟩ := List.mem_map.mp inG
    obtain ⟨n', -, same⟩ := List.mem_map.mp inH
    exact apart (Prod.mk.inj same).1.symm

end Pairs

/-! ## The names of the import lines -/

/-- The names the import lines of some imports import, in the order they name them. -/
def importedNames (imports : List Import) : List String :=
  (sortedImports imports).flatMap fun g => g.2.map (·.1)

theorem importedNames_perm (imports : List Import) :
    (importedNames imports).Perm ((groupPairs (groupImports imports)).map (·.2)) := by
  have unsorted : (groupPairs (groupImports imports)).map (·.2) =
      (groupImports imports).flatMap fun g => g.2.map (·.1) := by
    simp [groupPairs, List.map_flatMap, Function.comp_def]
  rw [unsorted]
  unfold importedNames sortedImports
  rw [List.flatMap_map]
  -- sorting reorders the groups and the names within each group
  refine (List.Perm.flatMap_left _ fun g _ => ?_).trans ((List.mergeSort_perm _ _).flatMap_right _)
  cases g
  exact (List.mergeSort_perm _ _).map _

theorem mem_importedNames {imports : List Import} {name : String} :
    name ∈ importedNames imports ↔ ∃ i ∈ imports, i.name = name := by
  have grouped := groupImports_grouped imports
  rw [(importedNames_perm imports).mem_iff, List.mem_map]
  constructor
  · rintro ⟨pair, member, rfl⟩
    obtain ⟨i, imported, -, named⟩ := grouped.mem_pairs.mp member
    exact ⟨i, imported, named⟩
  · rintro ⟨i, imported, rfl⟩
    exact ⟨(i.module, i.name), grouped.mem_pairs.mpr ⟨i, imported, rfl, rfl⟩, rfl⟩

/-- The import lines name a name twice exactly when it is imported from two modules. -/
theorem importedNames_nodup_iff (imports : List Import) :
    (importedNames imports).Nodup ↔
      ∀ i ∈ imports, ∀ j ∈ imports, i.name = j.name → i.module = j.module := by
  have grouped := groupImports_grouped imports
  rw [(importedNames_perm imports).nodup_iff, List.nodup_map_iff_inj_on grouped.pairs_nodup]
  constructor
  · intro injective i imported j imported' named
    have same := injective (i.module, i.name) (grouped.mem_pairs.mpr ⟨i, imported, rfl, rfl⟩)
      (j.module, j.name) (grouped.mem_pairs.mpr ⟨j, imported', rfl, rfl⟩) named
    exact (Prod.mk.inj same).1
  · intro once p member q member' named
    obtain ⟨i, imported, module, name⟩ := grouped.mem_pairs.mp member
    obtain ⟨j, imported', module', name'⟩ := grouped.mem_pairs.mp member'
    refine Prod.ext ?_ named
    rw [← module, ← module']
    exact once i imported j imported' (name.trans (named.trans name'.symm))

/-! ## The preamble

The only declaration a column needs at module level is the binary column type,
which binds `bytea`. -/

/-- A preamble that holds nothing but the declaration of the binary column type. -/
def OnlyBytea (preamble : List String) : Prop := ∀ p ∈ preamble, p = byteaPreamble

@[simp] theorem onlyBytea_nil : OnlyBytea [] := by simp [OnlyBytea]

@[simp] theorem onlyBytea_append {first second : List String} :
    OnlyBytea (first ++ second) ↔ OnlyBytea first ∧ OnlyBytea second := by
  simp [OnlyBytea, or_imp, forall_and]

theorem onlyBytea_flatMap {models : List ModelSource} (each : ∀ m ∈ models, OnlyBytea m.preamble) :
    OnlyBytea (models.flatMap (·.preamble)) := by
  intro p member
  obtain ⟨m, model, held⟩ := List.mem_flatMap.mp member
  exact each m model p held

theorem columnSource_onlyBytea (spec : ColumnSpec) : OnlyBytea (columnSource spec).preamble := by
  obtain ⟨column, builder, enumType⟩ := spec
  unfold columnSource
  cases enumType <;> cases builder <;> simp [builderCall, OnlyBytea]

theorem applyModifiers_preamble (source : FieldSource) (info : FieldInfo) :
    (applyModifiers source info).preamble = source.preamble := by
  unfold applyModifiers
  dsimp only
  -- every default keeps the source's preamble
  split
  all_goals (try split) <;> rfl

theorem renderDataField_onlyBytea {info : FieldInfo} {log after : List LogEntry} {source : FieldSource}
    (rendered : (renderDataField info).run.run log = (.ok (some source), after)) :
    OnlyBytea source.preamble := by
  unfold renderDataField at rendered
  split at rendered
  · cases rendered
    rw [applyModifiers_preamble]
    exact columnSource_onlyBytea _
  · obtain ⟨-, middle, -, rest⟩ := Run.run_bind_eq_ok rendered
    cases rest

theorem renderRelationField_onlyBytea {info : FieldInfo} {targetClassName : String}
    {log after : List LogEntry} {d : RelationDescriptor} {source : FieldSource}
    (rendered : (renderRelationField info targetClassName).run.run log =
      (.ok (some (d, some source)), after)) :
    OnlyBytea source.preamble := by
  obtain ⟨-, base, _, referenced, rfl⟩ := renderRelationField_column rendered
  -- the reference column is a bare column, or an integer when its kind has none
  rcases referenceSource_eq_ok referenced with ⟨kind, rfl⟩ | rfl
  · exact columnSource_onlyBytea _
  · exact onlyBytea_nil

theorem addField_onlyBytea {schema : Schema} {appLabel : String} {parts parts' : SourceParts}
    {plan : FieldPlan} {log after : List LogEntry} (only : OnlyBytea parts.preamble)
    (added : (addField schema appLabel parts plan).run.run log = (.ok parts', after)) :
    OnlyBytea parts'.preamble := by
  cases plan with
  | data info =>
    unfold addField at added
    obtain ⟨source, middle, rendered, rest⟩ := Run.run_bind_eq_ok added
    rcases source with _ | source
    · cases rest
      exact only
    · cases rest
      exact onlyBytea_append.mpr ⟨only, renderDataField_onlyBytea rendered⟩
  | relation info target targetClassName =>
    unfold addField at added
    obtain ⟨relation, middle, rendered, rest⟩ := Run.run_bind_eq_ok added
    rcases relation with _ | ⟨d, _ | source⟩
    · cases rest
      exact only
    · cases rest
      exact only
    · cases rest
      exact onlyBytea_append.mpr ⟨only, renderRelationField_onlyBytea rendered⟩

theorem renderParts_onlyBytea {schema : Schema} {names : ClassNames} {model : ModelPlan}
    {log after : List LogEntry} {parts : SourceParts}
    (rendered : (renderParts schema names model).run.run log = (.ok parts, after)) :
    OnlyBytea parts.preamble := by
  unfold renderParts at rendered
  obtain ⟨plans, middle, -, folded⟩ := Run.run_bind_eq_ok rendered
  -- the fold starts from no preamble, and each field adds at most the binary column type
  exact Run.foldlM_preserves plans (fun _ _ _ _ _ _ only added => addField_onlyBytea only added)
    _ _ _ _ onlyBytea_nil folded

/-! ## Everything a module binds -/

/-- The names a module's own declarations bind: `bytea` when a model needs the
binary column declaration, then the class name and the metadata name of each
model. -/
def declaredNames (models : List ModelSource) : List String :=
  (if (models.flatMap (·.preamble)).isEmpty then [] else ["bytea"]) ++
    models.map (·.className) ++ models.map (·.className ++ "Meta")

/-- The names a module of `models` binds at top level. -/
def bindings (models : List ModelSource) : List String :=
  importedNames (models.flatMap (·.imports)) ++ declaredNames models

/-- When a module of models with distinct class names binds no name twice: no name
comes from two modules, no imported name is a class or metadata name, no class name
is another's metadata name, and nothing else is named `bytea` when the module
declares it. -/
structure BindingsApart (models : List ModelSource) : Prop where
  importedOnce : ∀ i ∈ models.flatMap (·.imports), ∀ j ∈ models.flatMap (·.imports),
    i.name = j.name → i.module = j.module
  notImported : ∀ i ∈ models.flatMap (·.imports), ∀ m ∈ models,
    i.name ≠ m.className ∧ i.name ≠ m.className ++ "Meta"
  metaApart : ∀ m ∈ models, ∀ n ∈ models, m.className ≠ n.className ++ "Meta"
  byteaFree : models.flatMap (·.preamble) ≠ [] →
    (∀ i ∈ models.flatMap (·.imports), i.name ≠ "bytea") ∧ ∀ m ∈ models, m.className ≠ "bytea"

theorem meta_ne_bytea (c : String) : c ++ "Meta" ≠ "bytea" := by
  intro same
  -- the texts end in `ta` and `ea`
  have ends := congrArg (fun s : String => s.toList.reverse.take 2) same
  simp at ends

theorem declaredNames_nodup_iff {models : List ModelSource} (distinct : (models.map (·.className)).Nodup) :
    (declaredNames models).Nodup ↔ (∀ m ∈ models, ∀ n ∈ models, m.className ≠ n.className ++ "Meta") ∧
      (models.flatMap (·.preamble) ≠ [] → ∀ m ∈ models, m.className ≠ "bytea") := by
  have metas : (models.map (·.className ++ "Meta")).Nodup := by
    have renamed : models.map (·.className ++ "Meta") = (models.map (·.className)).map (· ++ "Meta") := by
      simp [Function.comp_def]
    rw [renamed]
    exact distinct.map fun a b same => (String.append_left_inj "Meta").mp same
  unfold declaredNames
  by_cases empty : models.flatMap (·.preamble) = []
  · simp [empty, List.nodup_append, distinct, metas]
  · -- `bytea` is declared too, and no metadata name can be it
    simp [empty, List.nodup_append, distinct, metas, meta_ne_bytea]
    exact and_comm

theorem mem_declaredNames {models : List ModelSource} {name : String} :
    name ∈ declaredNames models ↔ (models.flatMap (·.preamble) ≠ [] ∧ name = "bytea") ∨
      (∃ m ∈ models, m.className = name) ∨ ∃ m ∈ models, m.className ++ "Meta" = name := by
  unfold declaredNames
  by_cases empty : models.flatMap (·.preamble) = [] <;> simp [empty]

theorem imported_declared_apart_iff (models : List ModelSource) :
    (∀ a ∈ importedNames (models.flatMap (·.imports)), ∀ b ∈ declaredNames models, a ≠ b) ↔
      (∀ i ∈ models.flatMap (·.imports), ∀ m ∈ models,
        i.name ≠ m.className ∧ i.name ≠ m.className ++ "Meta") ∧
      (models.flatMap (·.preamble) ≠ [] → ∀ i ∈ models.flatMap (·.imports), i.name ≠ "bytea") := by
  constructor
  · intro apart
    have named : ∀ i ∈ models.flatMap (·.imports), i.name ∈ importedNames (models.flatMap (·.imports)) :=
      fun i imported => mem_importedNames.mpr ⟨i, imported, rfl⟩
    refine ⟨fun i imported m model => ⟨?_, ?_⟩, fun declared i imported => ?_⟩
    · exact apart _ (named i imported) _ (mem_declaredNames.mpr (.inr (.inl ⟨m, model, rfl⟩)))
    · exact apart _ (named i imported) _ (mem_declaredNames.mpr (.inr (.inr ⟨m, model, rfl⟩)))
    · exact apart _ (named i imported) _ (mem_declaredNames.mpr (.inl ⟨declared, rfl⟩))
  · rintro ⟨notImported, byteaFree⟩ a named b declared
    obtain ⟨i, imported, rfl⟩ := mem_importedNames.mp named
    rcases mem_declaredNames.mp declared with ⟨present, rfl⟩ | ⟨m, model, rfl⟩ | ⟨m, model, rfl⟩
    · exact byteaFree present i imported
    · exact (notImported i imported m model).1
    · exact (notImported i imported m model).2

/-- A module that imports a name one of its models is declared under binds it twice. -/
theorem bindings_not_nodup_of_imported_class {models : List ModelSource}
    (clash : ∃ i ∈ models.flatMap (·.imports), ∃ m ∈ models, i.name = m.className) :
    ¬ (bindings models).Nodup := by
  obtain ⟨i, imported, m, model, named⟩ := clash
  intro distinct
  have inImported : i.name ∈ importedNames (models.flatMap (·.imports)) :=
    mem_importedNames.mpr ⟨i, imported, rfl⟩
  have inDeclared : i.name ∈ declaredNames models :=
    mem_declaredNames.mpr (.inr (.inl ⟨m, model, named.symm⟩))
  exact (List.nodup_append.mp distinct).2.2 _ inImported _ inDeclared rfl

/-- A module of models with distinct class names binds no name twice exactly when
the models are `BindingsApart`. -/
theorem bindings_nodup_iff {models : List ModelSource} (distinct : (models.map (·.className)).Nodup) :
    (bindings models).Nodup ↔ BindingsApart models := by
  unfold bindings
  rw [List.nodup_append, importedNames_nodup_iff, declaredNames_nodup_iff distinct,
    imported_declared_apart_iff]
  constructor
  · rintro ⟨once, ⟨metaApart, byteaClass⟩, notImported, byteaImport⟩
    exact ⟨once, notImported, metaApart, fun declared => ⟨byteaImport declared, byteaClass declared⟩⟩
  · rintro ⟨once, notImported, metaApart, byteaFree⟩
    exact ⟨once, ⟨metaApart, fun declared => (byteaFree declared).2⟩, notImported,
      fun declared => (byteaFree declared).1⟩

end Code

/-! ## Generated modules -/

/-- A model the text renderer renders is declared with the fields its renderer
gathered. -/
theorem renderModel_parts {schema : Schema} {appName : String} {names : ClassNames} {model : ModelPlan}
    {log after : List LogEntry} {source : Code.ModelSource}
    (rendered : (Code.renderModel schema appName names model).run.run log = (.ok (some source), after)) :
    ∃ parts groups middle, (Code.renderParts schema names model).run.run log = (.ok parts, middle) ∧
      source = Code.declareModel appName model parts groups := by
  unfold Code.renderModel at rendered
  obtain ⟨parts, middle, partsRun, rest⟩ := Run.run_bind_eq_ok rendered
  by_cases empty : (parts.dataFields == 0) = true
  · rw [if_pos empty, Run.run_pure] at rest
    cases rest
  · rw [if_neg empty] at rest
    obtain ⟨groups, final, -, rest⟩ := Run.run_bind_eq_ok rest
    rw [Run.run_pure] at rest
    cases rest
    exact ⟨parts, groups, middle, partsRun, rfl⟩

/-- A model the text renderer renders is declared under its own class name and
app. -/
theorem renderModel_declares {schema : Schema} {appName : String} {names : ClassNames} {model : ModelPlan}
    {log after : List LogEntry} {source : Code.ModelSource}
    (rendered : (Code.renderModel schema appName names model).run.run log = (.ok (some source), after)) :
    ∃ parts groups, Code.OnlyBytea parts.preamble ∧ source = Code.declareModel appName model parts groups := by
  obtain ⟨parts, groups, middle, partsRun, declared⟩ := renderModel_parts rendered
  exact ⟨parts, groups, Code.renderParts_onlyBytea partsRun, declared⟩

theorem declared_of_settles {plan : Plan} {schema : Schema} {appName : String}
    {out : Outcome Code.ModelSource} (settles : out.Settles plan (Code.renderModel schema appName)) :
    ∀ r ∈ out.rendered, ∃ parts groups, Code.OnlyBytea parts.preamble ∧
      r.2 = Code.declareModel appName r.1 parts groups := by
  intro r rendered
  obtain ⟨log, after, call⟩ := settles.rendered_call r rendered
  exact renderModel_declares call

/-- The rendered texts of a pass over a plan have distinct class names. -/
theorem rendered_classNames_nodup {schema : Schema} {kinds : KindMap} {plan : Plan} {appName : String}
    {out : Outcome Code.ModelSource} (described : plan.Described schema kinds)
    (settles : out.Settles plan (Code.renderModel schema appName)) :
    ((out.rendered.map (·.2)).map (·.className)).Nodup := by
  have same : (out.rendered.map (·.2)).map (·.className) = (out.rendered.map (·.1)).map (·.className) := by
    simp only [List.map_map]
    refine List.map_congr_left fun r rendered => ?_
    obtain ⟨parts, groups, -, declared⟩ := declared_of_settles settles r rendered
    simp [declared, Code.declareModel]
  rw [same]
  exact described.distinct.sublist (settles.ordered.map _)

/-- The rendered texts of a pass need no module-level declaration but the binary
column type. -/
theorem rendered_onlyBytea {plan : Plan} {schema : Schema} {appName : String}
    {out : Outcome Code.ModelSource} (settles : out.Settles plan (Code.renderModel schema appName)) :
    ∀ r ∈ out.rendered, Code.OnlyBytea r.2.preamble := by
  intro r rendered
  obtain ⟨parts, groups, only, declared⟩ := declared_of_settles settles r rendered
  rw [declared]
  exact only

namespace Session

theorem mem_modulesOf {sources : List Code.ModelSource} {m : GeneratedModule} (member : m ∈ modulesOf sources) :
    m.content = Code.renderAppModule (sources.filter (·.appLabel == m.appLabel)) ∧
      m.models = (sources.filter (·.appLabel == m.appLabel)).map (·.className) := by
  obtain ⟨app, -, rfl⟩ := List.mem_map.mp member
  exact ⟨rfl, rfl⟩

/-- A session that generates modules plans the schema, renders the plan to the end
and groups the rendered texts into modules; the models left out are the planning
skips and the rendering failures. -/
theorem generateModules_source {s : Session} {schema : Schema} {apps : AppSelection}
    {log after : List LogEntry} {out : GeneratedSource}
    (generated : (s.generateModules schema apps).run.run log = (.ok out, after)) :
    ∃ (plan : Plan) (text : Outcome Code.ModelSource), s.plan schema apps = .ok plan ∧
      text.Settles plan (Code.renderModel schema s.config.appName) ∧
      out = { modules := modulesOf (text.rendered.map (·.2)), skipped := plan.skipped,
              failed := text.failed } := by
  unfold generateModules at generated
  obtain ⟨plan, middle, lifted, rest⟩ := Run.run_bind_eq_ok generated
  obtain ⟨text, final, rendered, rest⟩ := Run.run_bind_eq_ok rest
  obtain ⟨text', after', rendered', settles⟩ :=
    render_settles plan (Code.renderModel schema s.config.appName) middle
  -- the pass is the one `render_settles` describes
  rw [rendered'] at rendered
  cases rendered
  rw [Run.run_pure] at rest
  cases rest
  exact ⟨plan, _, (Run.lift_eq_ok lifted).1, settles, rfl⟩

/-- A session that generates modules plans the schema, renders the plan to the end
and writes the modules of the rendered texts. -/
theorem generateModules_modules {s : Session} {schema : Schema} {apps : AppSelection}
    {log after : List LogEntry} {out : GeneratedSource}
    (generated : (s.generateModules schema apps).run.run log = (.ok out, after)) :
    ∃ (plan : Plan) (text : Outcome Code.ModelSource), s.plan schema apps = .ok plan ∧ text.Settles plan (Code.renderModel schema s.config.appName) ∧
      out.modules = modulesOf (text.rendered.map (·.2)) := by
  obtain ⟨plan, text, planned, settles, rfl⟩ := generateModules_source generated
  exact ⟨plan, text, planned, settles, rfl⟩

end Session

/-- Every module a session generates is the text of some of the rendered models:
their class names are distinct, its preamble declares at most the binary column
type, and it binds no name twice exactly when the models are `BindingsApart`: no
name imported from two modules, no import named like a class or a metadata block,
no class named like another's metadata block, and nothing else named `bytea` when
the module declares it. -/
theorem generated_bindings_distinct_iff {s : Session} {schema : Schema} {apps : AppSelection}
    {log after : List LogEntry} {out : GeneratedSource}
    (generated : (s.generateModules schema apps).run.run log = (.ok out, after)) :
    ∀ m ∈ out.modules, ∃ mine : List Code.ModelSource,
      m.content = Code.renderAppModule mine ∧ m.models = mine.map (·.className) ∧ m.models.Nodup ∧
      Code.OnlyBytea (mine.flatMap (·.preamble)) ∧
      ((Code.bindings mine).Nodup ↔ Code.BindingsApart mine) := by
  obtain ⟨plan, text, planned, settles, modules⟩ := Session.generateModules_modules generated
  have distinct := rendered_classNames_nodup (Schema.plan_described planned) settles
  intro m member
  rw [modules] at member
  obtain ⟨content, models⟩ := Session.mem_modulesOf member
  -- a module holds some of the rendered texts, in order
  have mine := (text.rendered.map (·.2)).filter_sublist (p := (·.appLabel == m.appLabel))
  have mineDistinct := distinct.sublist (mine.map _)
  have preamble : ∀ source ∈ text.rendered.map (·.2), Code.OnlyBytea source.preamble := by
    intro source rendered
    obtain ⟨r, member, rfl⟩ := List.mem_map.mp rendered
    exact rendered_onlyBytea settles r member
  refine ⟨_, content, models, models ▸ mineDistinct,
    Code.onlyBytea_flatMap fun source kept => preamble source (mine.subset kept),
    Code.bindings_nodup_iff mineDistinct⟩

theorem generated_bindings_distinct_iff_on_chain :
    ∃ schema out after, Schema.build chainManifest = .ok schema ∧
      (defaultSession.generateModules schema .all).run.run [] = (.ok out, after) ∧
      ∀ m ∈ out.modules, ∃ mine : List Code.ModelSource,
        m.content = Code.renderAppModule mine ∧ m.models = mine.map (·.className) ∧ m.models.Nodup ∧
        Code.OnlyBytea (mine.flatMap (·.preamble)) ∧
        ((Code.bindings mine).Nodup ↔ Code.BindingsApart mine) := by
  obtain ⟨schema, built, out, after, generated⟩ : ∃ schema, Schema.build chainManifest = .ok schema ∧
      ∃ out after, (defaultSession.generateModules schema .all).run.run [] = (.ok out, after) :=
    ⟨_, rfl, _, _, rfl⟩
  exact ⟨schema, out, after, built, generated, generated_bindings_distinct_iff generated⟩

/-- One model `pg` of one boolean field. -/
def pgManifest : Manifest :=
  { defaultAutoField := "BigAutoField", enums := []
    models := [{ app := "a", name := "pg", fields := [{ name := "w", kind := "BooleanField" }] }] }

/-- Under the default suffix the model `pg` is declared as `pgTable`, the name the
module imports to build tables with. -/
theorem pg_model_binds_pgTable_twice :
    ∃ schema plan, Schema.build pgManifest = .ok schema ∧ defaultSession.plan schema .all = .ok plan ∧
      ∃ text after, (plan.render (Code.renderModel schema "mirror")).run.run [] = (.ok text, after) ∧
        (defaultSession.generateModules schema .all).run.run [] =
          (.ok { modules := Session.modulesOf (text.rendered.map (·.2)), skipped := [], failed := [] },
            after) ∧
        (text.rendered.map (·.2)).map (·.className) = ["pgTable"] ∧
        Code.groupImports ((text.rendered.map (·.2)).flatMap (·.imports)) =
          [("drizzle-orm/pg-core", [("pgTable", false), ("bigserial", false), ("boolean", false)])] ∧
        ¬ (Code.bindings (text.rendered.map (·.2))).Nodup := by
  refine ⟨_, _, rfl, rfl, _, _, rfl, rfl, ?classes, ?groups, ?twice⟩
  case classes => decide
  case groups => decide
  case twice =>
    -- the table builder's import is named like the model's class
    exact Code.bindings_not_nodup_of_imported_class (by decide)

end ModelTables
