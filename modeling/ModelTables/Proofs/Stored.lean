import ModelTables.Catalog.Describe

/-! # Following references to the stored column

`walkStored` follows relation fields from target to target until a field that
stores a value.  A walk that finds a kind is unchanged by more steps or by fewer
fields marked as passed (`walkStored_of_kind`), and the models it passes are
recorded after whatever the caller already listed (`walkStored_via`).  So the
walk from a relation field is one step followed by the walk its referenced field
makes on its own (`resolveStored_step`): both find the same kind and length, and
the first passes one model more.

A field with a column is described (`describeField_of_concrete`), and its
description carries its name, its kind under the kind map and, for a relation,
the walk from the field it references (`Describes`, `describeField_lengths`); a
reverse field is not described.

The walk always stops before its bound: every relation field it passes is marked,
a marked field ends it, and each mark takes one of the schema's fields, so a bound
past the number of fields is never reached and more steps change nothing
(`walkStored_eq_resolveStored`).  What it stops at is read off `ReferenceChain`,
the references followed from the starting field without the walk: it finds a kind
exactly when the chain reaches a field that stores its value without passing a
field twice, and then that field's kind and length, with the targets passed
(`resolveStored_ends_reference_chain`).
-/

namespace ModelTables.Schema

variable {schema : Schema} {kinds : Option KindMap}

/-- The models a walk passes are listed after those given to it. -/
theorem walkStored_via (fuel : Nat) (field : Option Field) (seen : List (String × String))
    (via : List String) :
    walkStored schema kinds fuel field seen via =
      { walkStored schema kinds fuel field seen [] with
        via := via ++ (walkStored schema kinds fuel field seen []).via } := by
  induction fuel generalizing field seen via with
  | zero => simp [walkStored]
  | succ fuel ih =>
    rcases field with _ | field
    · simp [walkStored]
    · simp only [walkStored]
      rcases field.relation with _ | relation
      · simp
      · by_cases many : field.manyToMany = true
        · simp [many]
        · by_cases passed : seen.contains (field.model, field.name) = true
          · simp [many, List.contains_iff_mem.mp passed]
          · simp only [many, passed, Bool.false_eq_true, if_false, List.nil_append]
            rw [ih _ _ (via ++ [relation.model]), ih _ _ [relation.model]]
            simp

/-- A walk that finds a kind finds the same with more steps and with fewer fields
marked as passed. -/
theorem walkStored_of_kind {fuel fuel' : Nat} {field : Option Field}
    {seen seen' : List (String × String)} {via : List String} {kind : MappedKind}
    (found : (walkStored schema kinds fuel field seen via).kind = some kind) (more : fuel ≤ fuel')
    (fewer : ∀ x ∈ seen', x ∈ seen) :
    walkStored schema kinds fuel' field seen' via = walkStored schema kinds fuel field seen via := by
  induction fuel generalizing fuel' field seen seen' via with
  | zero => simp [walkStored] at found
  | succ fuel ih =>
    obtain ⟨fuel', rfl⟩ : ∃ rest, fuel' = rest + 1 := ⟨fuel' - 1, by omega⟩
    rcases field with _ | field
    · simp [walkStored] at found
    · rcases related : field.relation with _ | relation
      · simp only [walkStored, related]
      · by_cases many : field.manyToMany = true
        · simp only [walkStored, related, many, if_true]
        · by_cases passed : seen.contains (field.model, field.name) = true
          · simp [walkStored, related, many, List.contains_iff_mem.mp passed] at found
          · -- not passed before, so not passed in the smaller list either
            have passed' : seen'.contains (field.model, field.name) = false := by
              simp only [List.contains_iff_mem] at passed ⊢
              simpa using fun member => passed (fewer _ member)
            simp only [walkStored, related, many, passed, passed', Bool.false_eq_true,
              if_false] at found ⊢
            exact ih found (by omega) (fun x member => by
              rcases List.mem_cons.mp member with rfl | later
              · exact List.mem_cons_self ..
              · exact List.mem_cons_of_mem _ (fewer x later))

/-- A walk that finds a kind starts at a field. -/
theorem walkStored_found {fuel : Nat} {field : Option Field} {seen : List (String × String)}
    {via : List String} {kind : MappedKind}
    (found : (walkStored schema kinds fuel field seen via).kind = some kind) :
    ∃ start, field = some start := by
  rcases field with _ | start
  · cases fuel <;> simp [walkStored] at found
  · exact ⟨start, rfl⟩

/-- The column behind a field that stores its own value is that field's. -/
theorem resolveStored_of_plain {target name : String} {field : Field}
    (stored : schema.storedField? target name = some field) (plain : field.relation = none) :
    resolveStored schema kinds target name = ⟨some (mapKind kinds field.kind), field.maxLength, []⟩ := by
  simp [resolveStored, stored, walkStored, plain]

/-- From a relation field that is not many-to-many, a walk that finds a kind is the
walk of the field it references, one model more passed. -/
theorem resolveStored_step {target name : String} {field : Field}
    {relation : Relation} {kind : MappedKind} (stored : schema.storedField? target name = some field)
    (related : field.relation = some relation) (single : field.manyToMany = false)
    (found : (resolveStored schema kinds target name).kind = some kind) :
    resolveStored schema kinds target name =
      let next := resolveStored schema kinds relation.model (schema.referencedName relation.model relation.toField)
      { next with via := relation.model :: next.via } := by
  let next := schema.storedField? relation.model (schema.referencedName relation.model relation.toField)
  -- the first step: nothing is passed yet, so the walk moves on to `next`
  have stepped : resolveStored schema kinds target name =
      walkStored schema kinds schema.fieldCount next [(field.model, field.name)] [relation.model] := by
    simp [resolveStored, stored, walkStored, related, single, next]
  rw [stepped] at found ⊢
  have unmarked : ∀ x ∈ ([] : List (String × String)), x ∈ [(field.model, field.name)] :=
    fun _ member => absurd member List.not_mem_nil
  rw [← walkStored_of_kind found (Nat.le_succ schema.fieldCount) unmarked, walkStored_via _ _ _ [relation.model]]
  rfl

/-- From a relation field that is not many-to-many, a walk that finds a kind steps to
the field it references and goes on as that field's own walk: the same kind, one
model more passed. -/
theorem resolveStored_of_relation {target name : String} {field : Field} {relation : Relation}
    {kind : MappedKind} (stored : schema.storedField? target name = some field)
    (related : field.relation = some relation) (single : field.manyToMany = false)
    (found : (resolveStored schema kinds target name).kind = some kind) :
    (resolveStored schema kinds relation.model
        (schema.referencedName relation.model relation.toField)).kind = some kind ∧
      (resolveStored schema kinds target name).via =
        relation.model :: (resolveStored schema kinds relation.model
          (schema.referencedName relation.model relation.toField)).via := by
  have step := resolveStored_step stored related single found
  rw [step] at found ⊢
  exact ⟨found, rfl⟩

/-- What the description of a field says about it. -/
structure Describes (schema : Schema) (kinds : Option KindMap) (field : Field) (info : FieldInfo) :
    Prop where
  name : info.name = field.name
  internalType : info.internalType = mapKind kinds field.kind
  isRelation : info.isRelation = field.relation.isSome
  manyToMany : info.manyToMany = field.manyToMany
  relatedModel : info.relatedModel = field.relation.map (·.model)
  stored : ∀ relation, field.relation = some relation →
    info.relatedFieldName = some (schema.referencedName relation.model relation.toField) ∧
    info.relatedFieldKind = (schema.resolveStored kinds relation.model
      (schema.referencedName relation.model relation.toField)).kind ∧
    info.relatedFieldVia = (schema.resolveStored kinds relation.model
      (schema.referencedName relation.model relation.toField)).via

theorem describeField_describes {field : Field} {info : FieldInfo}
    (described : schema.describeField kinds field = some info) : Describes schema kinds field info := by
  unfold describeField at described
  split at described
  · cases described
  · split at described
    · cases described
    · cases described
      refine ⟨rfl, rfl, rfl, rfl, rfl, fun relation related => ?_⟩
      simp [related]

theorem describeField_of_concrete (field : Field) (concrete : field.concrete = true)
    (single : field.manyToMany = false) : ∃ info, schema.describeField kinds field = some info := by
  simp [describeField, concrete, single]

/-- A field's description keeps its length and, for a relation, the length its walk
ends at. -/
theorem describeField_lengths {field : Field} {info : FieldInfo}
    (described : schema.describeField kinds field = some info) :
    info.maxLength = field.maxLength ∧ ∀ relation, field.relation = some relation →
      info.relatedFieldMaxLength = (schema.resolveStored kinds relation.model
        (schema.referencedName relation.model relation.toField)).maxLength := by
  unfold describeField at described
  split at described
  · cases described
  · split at described
    · cases described
    · cases described
      exact ⟨rfl, fun relation related => by simp [related]⟩

/-- A reverse field without a column is not described. -/
theorem describeField_of_reverse {field : Field} (reverse : field.reverse = true)
    (concrete : field.concrete = false) : schema.describeField kinds field = none := by
  cases many : field.manyToMany <;> simp [describeField, reverse, concrete, many]

/-- The field a walk starts from is a field with a column of the model of that label. -/
theorem storedField?_eq_some {target name : String} {field : Field}
    (stored : schema.storedField? target name = some field) :
    ∃ model, schema.model? target = some model ∧ field ∈ model.fields ∧ field.name = name ∧
      field.concrete = true := by
  unfold storedField? at stored
  rcases found : schema.model? target with _ | model
  · simp [found] at stored
  · simp only [found, Option.bind_some] at stored
    have matching := List.find?_some stored
    simp only [Bool.and_eq_true, beq_iff_eq] at matching
    exact ⟨model, rfl, List.mem_of_find?_eq_some stored, matching.1, matching.2⟩

/-! ## The walk stops, at the end of the chain of references -/

/-- `schema.ReferenceChain start passed last`: following references from `start`
passes the relation fields `passed`, in order, and ends at `last`, a field that
stores its own value (it has no relation, or is many-to-many).  Each passed field
is a relation that is not many-to-many and hands on to the field with a column
that its relation references on its target. -/
inductive ReferenceChain (schema : Schema) : Field → List Field → Field → Prop
  | stores {field : Field} (stores : field.relation = none ∨ field.manyToMany = true) :
      ReferenceChain schema field [] field
  | follows {field next last : Field} {relation : Relation} {passed : List Field}
      (related : field.relation = some relation) (single : field.manyToMany = false)
      (referenced : schema.storedField? relation.model
        (schema.referencedName relation.model relation.toField) = some next)
      (rest : ReferenceChain schema next passed last) :
      ReferenceChain schema field (field :: passed) last

/-- The fields of a schema, model by model. -/
def allFields (schema : Schema) : List Field := schema.models.flatMap (·.fields)

/-- The fields of a schema that a walk has not marked as passed. -/
def unmarked (schema : Schema) (seen : List (String × String)) : Nat :=
  schema.allFields.countP fun f => !seen.contains (f.model, f.name)

theorem fieldCount_eq_length (schema : Schema) : schema.fieldCount = schema.allFields.length := by
  rcases schema with ⟨models⟩
  induction models with
  | nil => rfl
  | cons model rest ih =>
    simp only [fieldCount, allFields, List.map_cons, List.foldr_cons, List.flatMap_cons,
      List.length_append] at ih ⊢
    rw [ih]

/-- A field a walk steps to is a field of the schema. -/
theorem mem_allFields_of_storedField? {target name : String} {field : Field}
    (stored : schema.storedField? target name = some field) : field ∈ schema.allFields := by
  obtain ⟨model, found, member, -, -⟩ := storedField?_eq_some stored
  exact List.mem_flatMap.mpr ⟨model, List.mem_of_find?_eq_some found, member⟩

/-- Counting with a stronger test finds fewer, strictly fewer when a member passes
only the weaker one. -/
private theorem countP_lt_countP {α : Type} {p q : α → Bool} {l : List α} {a : α}
    (stronger : ∀ x ∈ l, p x → q x) (member : a ∈ l) (weak : q a = true) (strong : p a = false) :
    l.countP p < l.countP q := by
  induction l with
  | nil => cases member
  | cons x xs ih =>
    have le : xs.countP p ≤ xs.countP q :=
      List.countP_mono_left fun y within => stronger y (List.mem_cons_of_mem x within)
    have head : p x = true → q x = true := stronger x List.mem_cons_self
    rcases List.mem_cons.mp member with rfl | later
    · simp [weak, strong]
      omega
    · have lt := ih (fun y within => stronger y (List.mem_cons_of_mem x within)) later
      -- the head counts for `q` whenever it counts for `p`
      have counted : (if p x then 1 else 0) ≤ (if q x then 1 else 0) := by
        cases hp : p x
        · simp
        · simp [head hp]
      simp only [List.countP_cons]
      omega

/-- Marking a field of the schema that was not marked leaves fewer unmarked. -/
theorem unmarked_mark_lt {seen : List (String × String)} {field : Field}
    (member : field ∈ schema.allFields) (fresh : seen.contains (field.model, field.name) = false) :
    schema.unmarked ((field.model, field.name) :: seen) < schema.unmarked seen := by
  refine countP_lt_countP (fun f _ marked => ?_) member (by simpa using fresh) (by simp)
  simp only [List.contains_cons, Bool.not_or, Bool.and_eq_true] at marked
  exact marked.2

/-- Once the bound exceeds the unmarked fields, one more step changes nothing: each
step marks a field of the schema, and a marked field ends the walk. -/
theorem walkStored_succ_fuel {fuel : Nat} {field : Option Field} {seen : List (String × String)}
    {via : List String} (inSchema : ∀ f, field = some f → f ∈ schema.allFields)
    (enough : schema.unmarked seen < fuel) :
    walkStored schema kinds (fuel + 1) field seen via = walkStored schema kinds fuel field seen via := by
  induction fuel generalizing field seen via with
  | zero => omega
  | succ fuel ih =>
    rcases field with _ | field
    · simp only [walkStored]
    · rcases related : field.relation with _ | relation
      · simp only [walkStored, related]
      · by_cases many : field.manyToMany = true
        · simp only [walkStored, related, many, if_true]
        · by_cases passed : seen.contains (field.model, field.name) = true
          · simp only [walkStored, related, many, passed, if_true, Bool.false_eq_true, if_false]
          · have fresh : seen.contains (field.model, field.name) = false := by simpa using passed
            have fewer := unmarked_mark_lt (inSchema field rfl) fresh
            simp only [walkStored, related, many, fresh, Bool.false_eq_true, if_false]
            exact ih (fun f next => mem_allFields_of_storedField? next) (by omega)

/-- The walk that `resolveStored` makes is the walk with any bound past the number
of fields: it stops before its bound. -/
theorem walkStored_eq_resolveStored {target name : String} {fuel : Nat}
    (enough : schema.fieldCount < fuel) :
    walkStored schema kinds fuel (schema.storedField? target name) [] [] =
      resolveStored schema kinds target name := by
  obtain ⟨extra, rfl⟩ : ∃ extra, fuel = schema.fieldCount + 1 + extra :=
    ⟨fuel - (schema.fieldCount + 1), by omega⟩
  induction extra with
  | zero => rfl
  | succ extra ih =>
    have bound : schema.unmarked [] < schema.fieldCount + 1 + extra := by
      have counted : schema.unmarked [] ≤ schema.fieldCount := by
        rw [unmarked, fieldCount_eq_length]
        exact List.countP_le_length
      omega
    rw [← Nat.add_assoc, walkStored_succ_fuel (fun f stored => mem_allFields_of_storedField? stored) bound,
      ih (by omega)]

/-- A chain that passes no field twice, none of them marked, is walked to its end
within as many steps as it passes fields, and one more. -/
theorem walkStored_of_chain {field last : Field} {passed : List Field}
    (chain : schema.ReferenceChain field passed last) :
    ∀ {fuel : Nat} {seen : List (String × String)} (via : List String),
      (passed.map fun f => (f.model, f.name)).Nodup →
      (∀ f ∈ passed, (f.model, f.name) ∉ seen) → passed.length < fuel →
      walkStored schema kinds fuel (some field) seen via =
        ⟨some (mapKind kinds last.kind), last.maxLength,
          via ++ passed.filterMap fun f => f.relation.map (·.model)⟩ := by
  induction chain with
  | @stores field stores =>
    intro fuel seen via _ _ enough
    obtain ⟨fuel, rfl⟩ : ∃ rest, fuel = rest + 1 := ⟨fuel - 1, by simp at enough; omega⟩
    rcases stores with plain | many
    · simp [walkStored, plain]
    · cases related : field.relation <;> simp [walkStored, related, many]
  | @follows field next last relation passed related single referenced rest ih =>
    intro fuel seen via distinct unmarked enough
    obtain ⟨fuel, rfl⟩ : ∃ rest, fuel = rest + 1 := ⟨fuel - 1, by simp at enough; omega⟩
    simp only [List.map_cons, List.nodup_cons, List.mem_map] at distinct
    have fresh : seen.contains (field.model, field.name) = false := by
      simpa using unmarked field List.mem_cons_self
    -- the field is marked now, and the rest of the chain passes none marked before
    have restUnmarked : ∀ f ∈ passed, (f.model, f.name) ∉ (field.model, field.name) :: seen := by
      intro f within marked
      rcases List.mem_cons.mp marked with same | old
      · exact distinct.1 ⟨f, within, same⟩
      · exact unmarked f (List.mem_cons_of_mem field within) old
    simp only [walkStored, related, single, fresh, Bool.false_eq_true, if_false, referenced]
    rw [ih _ distinct.2 restUnmarked (by simp at enough; omega)]
    simp [related]

/-- A walk finds a kind only at the end of a chain that passes no field twice and
none marked before it started. -/
theorem chain_of_walkStored {fuel : Nat} {field : Option Field} {seen : List (String × String)}
    {via : List String} (found : (walkStored schema kinds fuel field seen via).kind.isSome = true) :
    ∃ start passed last, field = some start ∧ schema.ReferenceChain start passed last ∧
      (passed.map fun f => (f.model, f.name)).Nodup ∧ ∀ f ∈ passed, (f.model, f.name) ∉ seen := by
  induction fuel generalizing field seen via with
  | zero => simp [walkStored] at found
  | succ fuel ih =>
    rcases field with _ | field
    · simp [walkStored] at found
    · rcases related : field.relation with _ | relation
      · exact ⟨field, [], field, rfl, .stores (.inl related), by simp, by simp⟩
      · by_cases many : field.manyToMany = true
        · exact ⟨field, [], field, rfl, .stores (.inr many), by simp, by simp⟩
        · have single : field.manyToMany = false := by simpa using many
          by_cases passed : seen.contains (field.model, field.name) = true
          · simp [walkStored, related, single, List.contains_iff_mem.mp passed] at found
          · have fresh : seen.contains (field.model, field.name) = false := by simpa using passed
            simp only [walkStored, related, single, fresh, Bool.false_eq_true, if_false] at found
            obtain ⟨next, rest, last, referenced, chain, distinct, unmarked⟩ := ih found
            refine ⟨field, field :: rest, last, rfl, .follows related single referenced chain, ?_, ?_⟩
            · simp only [List.map_cons, List.nodup_cons, List.mem_map]
              exact ⟨fun ⟨f, within, same⟩ => unmarked f within (same ▸ List.mem_cons_self), distinct⟩
            · intro f within marked
              rcases List.mem_cons.mp within with rfl | later
              · exact absurd marked (by simpa using fresh)
              · exact unmarked f later (List.mem_cons_of_mem _ marked)

/-- The walk behind a referenced field stops before its bound, and finds a kind
exactly when following references from the field reaches a field that stores its
value without passing a field twice; it then gives that field's kind under the kind
map and its length, with the targets of the relations passed, in order. -/
theorem resolveStored_ends_reference_chain (kinds : Option KindMap) (target name : String) :
    (∀ fuel, schema.fieldCount < fuel →
      walkStored schema kinds fuel (schema.storedField? target name) [] [] =
        resolveStored schema kinds target name) ∧
    ((resolveStored schema kinds target name).kind.isSome = true ↔
      ∃ start passed last, schema.storedField? target name = some start ∧
        schema.ReferenceChain start passed last ∧ (passed.map fun f => (f.model, f.name)).Nodup) ∧
    ∀ start passed last, schema.storedField? target name = some start →
      schema.ReferenceChain start passed last → (passed.map fun f => (f.model, f.name)).Nodup →
      resolveStored schema kinds target name =
        ⟨some (mapKind kinds last.kind), last.maxLength,
          passed.filterMap fun f => f.relation.map (·.model)⟩ := by
  have ends : ∀ start passed last, schema.storedField? target name = some start →
      schema.ReferenceChain start passed last → (passed.map fun f => (f.model, f.name)).Nodup →
      resolveStored schema kinds target name =
        ⟨some (mapKind kinds last.kind), last.maxLength,
          passed.filterMap fun f => f.relation.map (·.model)⟩ := by
    intro start passed last stored chain distinct
    -- walk with room for the whole chain, then drop back to the walk's own bound
    have long : walkStored schema kinds (schema.fieldCount + 1 + passed.length) (some start) [] [] =
        ⟨some (mapKind kinds last.kind), last.maxLength,
          [] ++ passed.filterMap fun f => f.relation.map (·.model)⟩ :=
      walkStored_of_chain chain [] distinct (by simp) (by omega)
    have bounded : walkStored schema kinds (schema.fieldCount + 1 + passed.length)
        (schema.storedField? target name) [] [] = resolveStored schema kinds target name :=
      walkStored_eq_resolveStored (by omega)
    rw [← bounded, stored, long, List.nil_append]
  refine ⟨fun fuel enough => walkStored_eq_resolveStored enough, ⟨fun found => ?_, ?_⟩, ends⟩
  · obtain ⟨start, passed, last, stored, chain, distinct, -⟩ := chain_of_walkStored found
    exact ⟨start, passed, last, stored, chain, distinct⟩
  · rintro ⟨start, passed, last, stored, chain, distinct⟩
    rw [ends start passed last stored chain distinct]
    rfl

end ModelTables.Schema
