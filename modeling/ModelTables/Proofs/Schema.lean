import ModelTables.Schema.Build
import ModelTables.Proofs.Run
import Mathlib.Data.List.Nodup

/-! # Built schemas are well formed

`Schema.build` refuses repeated labels before it builds anything, and builds every
field from its declaration, so every schema it returns is `WellFormed`:

* the labels of its models are distinct;
* a field with a column is never many-to-many, and a relation field with a column
  is a foreign key or a one-to-one field.

Main statement: `build_wellFormed`.  Since a model's declared fields are checked
against the names declared before them, each built model holds its forward fields,
named apart, followed by the reverse fields other models add to it
(`build_fields`).
-/

namespace ModelTables

/-- A field whose column, if it has one, holds one value, and holds a reference
only as a foreign key or a one-to-one field. -/
structure Field.Sound (field : Field) : Prop where
  single : field.concrete = true → field.manyToMany = false
  referenceKind : field.concrete = true → field.relation.isSome = true →
    field.kind = "ForeignKey" ∨ field.kind = "OneToOneField"

/-- In a list whose elements have distinct keys, the search by key finds the element
of that key. -/
theorem find?_of_nodup_keys {β : Type} {key : β → String} {xs : List β} (distinct : (xs.map key).Nodup)
    {x : β} (member : x ∈ xs) : xs.find? (fun y => key y == key x) = some x := by
  rcases found : xs.find? (fun y => key y == key x) with _ | y
  · simp only [List.find?_eq_none, beq_iff_eq] at found
    exact absurd rfl (found x member)
  · have sameKey : key y = key x := by simpa using List.find?_some found
    rw [List.inj_on_of_nodup_map distinct (List.mem_of_find?_eq_some found) member sameKey]

namespace Schema

/-- What every built schema satisfies. -/
structure WellFormed (schema : Schema) : Prop where
  labels : (schema.models.map Model.label).Nodup
  fields : ∀ model ∈ schema.models, ∀ field ∈ model.fields, field.Sound

theorem firstRepeat_eq_none : ∀ {labels seen : List String}, firstRepeat labels seen = none →
    labels.Nodup ∧ ∀ label ∈ labels, label ∉ seen
  | [], _, _ => ⟨List.nodup_nil, by simp⟩
  | label :: rest, seen, clear => by
    unfold firstRepeat at clear
    by_cases repeated : seen.contains label = true
    · rw [if_pos repeated] at clear
      cases clear
    · rw [if_neg repeated] at clear
      obtain ⟨distinct, unseen⟩ := firstRepeat_eq_none clear
      refine ⟨List.nodup_cons.mpr ⟨fun member => unseen label member (List.mem_cons_self ..), distinct⟩, ?_⟩
      intro other member
      rcases List.mem_cons.mp member with rfl | later
      · simpa using repeated
      · exact fun seenBefore => unseen other later (List.mem_cons_of_mem _ seenBefore)

/-- A reverse field has no column. -/
theorem reverseField_sound (owner target : ModelMeta) (decl : FieldDecl) (manyToMany : Bool) :
    (reverseField owner target decl manyToMany).Sound :=
  ⟨fun concrete => by simp [reverseField] at concrete, fun concrete => by simp [reverseField] at concrete⟩

/-- A relation field has a column exactly when it is not many-to-many. -/
theorem Field.sound_of_relation {field : Field} (kind : isRelationKind field.kind = true)
    (concrete : field.concrete = !(field.kind == "ManyToManyField"))
    (many : field.manyToMany = (field.kind == "ManyToManyField")) : field.Sound := by
  refine ⟨fun stored => ?_, fun stored _ => ?_⟩
  · rw [concrete] at stored
    rw [many]
    simpa using stored
  · rw [concrete] at stored
    simp only [isRelationKind, Bool.or_eq_true, beq_iff_eq] at kind
    simp only [Bool.not_eq_eq_eq_not, Bool.not_true, beq_eq_false_iff_ne] at stored
    rcases kind with (foreign | single) | many
    · exact .inl foreign
    · exact .inr single
    · exact absurd many stored

/-- What building a declared field gives: a forward field carrying the declaration's
resolved default and choices, and, for a relation, its column, its relation to the
resolved target, and the reverse field it adds unless its related name is `+`. -/
theorem Context.buildField_eq_ok {ctx : Context} {owner : ModelMeta} {decl : FieldDecl} {field : Field}
    {pending : Option Pending} (built : ctx.buildField owner decl = .ok (field, pending)) :
    ∃ preset choices, ctx.resolveDefault decl (owner.label ++ "." ++ decl.name) = .ok preset ∧
      ctx.resolveChoices decl preset (owner.label ++ "." ++ decl.name) = .ok choices ∧
      ∃ base : Field,
        base = { name := decl.name, kind := decl.kind, model := owner.label
                 column := some (decl.column.getD decl.name), concrete := true, manyToMany := false
                 reverse := false, primaryKey := decl.primaryKey.getD false, null := decl.null.getD false
                 unique := decl.unique.getD false, dbIndex := decl.dbIndex.getD false
                 hasDefault := decl.hasDefault, default := preset, maxLength := decl.maxLength
                 maxDigits := decl.maxDigits, decimalPlaces := decl.decimalPlaces, choices
                 relation := none } ∧
        ((isRelationKind decl.kind = false ∧ field = base ∧ pending = none) ∨
          (isRelationKind decl.kind = true ∧ ∃ (relatedTo : String) (target : ModelMeta) (through : Option ModelMeta),
            decl.relatedTo = some relatedTo ∧
            ctx.resolveModel relatedTo owner (owner.label ++ "." ++ decl.name) = .ok target ∧
            field = { base with
              column := if decl.kind == "ManyToManyField" then none
                else some (decl.column.getD (decl.name ++ "_id"))
              concrete := !(decl.kind == "ManyToManyField")
              manyToMany := decl.kind == "ManyToManyField"
              relation := some
                { model := target.label, onDelete := decl.onDelete, relatedName := decl.relatedName
                  toField := decl.toField, through := through.map (·.label)
                  throughTable := if decl.kind == "ManyToManyField" then
                      some (decl.throughTable.getD ((through.map (·.dbTable)).getD (owner.dbTable ++ "_" ++ decl.name)))
                    else none } } ∧
            pending = if decl.relatedName == some "+" then none
              else some (target.label, reverseField owner target decl (decl.kind == "ManyToManyField")))) := by
  unfold Context.buildField at built
  obtain ⟨preset, resolved, built⟩ := Except.bind_eq_ok_iff.mp built
  obtain ⟨choices, chosen, built⟩ := Except.bind_eq_ok_iff.mp built
  refine ⟨preset, choices, resolved, chosen, _, rfl, ?_⟩
  by_cases relation : isRelationKind decl.kind = true
  · simp only [relation, Bool.not_true, Bool.false_eq_true, if_false] at built
    split at built
    · rename_i relatedTo named
      obtain ⟨target, resolvedTarget, built⟩ := Except.bind_eq_ok_iff.mp built
      -- with a join model or without, the field and its reverse are built alike
      split at built
      all_goals
        obtain ⟨through, -, built⟩ := Except.bind_eq_ok_iff.mp built
        simp only [pure, Except.pure, Except.ok.injEq, Prod.mk.injEq] at built
        obtain ⟨rfl, rfl⟩ := built
        exact .inr ⟨relation, relatedTo, target, through, named, resolvedTarget, rfl, rfl⟩
    · cases built
  · simp only [relation, Bool.not_false, if_true, pure, Except.pure, Except.ok.injEq,
      Prod.mk.injEq] at built
    obtain ⟨rfl, rfl⟩ := built
    exact .inl ⟨by simpa using relation, rfl, rfl⟩

theorem Context.buildField_sound {ctx : Context} {owner : ModelMeta} {decl : FieldDecl}
    {field : Field} {pending : Option Pending}
    (built : ctx.buildField owner decl = .ok (field, pending)) :
    field.Sound ∧ ∀ p ∈ pending, p.2.Sound := by
  obtain ⟨preset, choices, -, -, base, rfl, ⟨-, rfl, rfl⟩ | ⟨relation, -, target, -, -, -, rfl, rfl⟩⟩ :=
    buildField_eq_ok built
  · exact ⟨⟨fun _ => rfl, fun _ related => by simp at related⟩, by simp⟩
  · refine ⟨Field.sound_of_relation relation rfl rfl, fun p member => ?_⟩
    split at member
    · cases member
    · simp only [Option.mem_def, Option.some.injEq] at member
      exact member ▸ reverseField_sound owner target decl _

/-- Building the declared fields of a model, when it succeeds, builds each declaration
in order: the fields are the forward fields built and the pending fields the reverse
ones, in order, and the declarations are named apart and apart from `seen`. -/
theorem Context.buildFields_eq_ok {ctx : Context} {owner : ModelMeta} :
    ∀ {decls : List FieldDecl} {seen : List String} {fields : List Field} {pendings : List Pending},
      ctx.buildFields owner decls seen = .ok (fields, pendings) →
      ∃ built : List (Field × Option Pending),
        List.Forall₂ (fun decl b => ctx.buildField owner decl = .ok b) decls built ∧
        fields = built.map (·.1) ∧ pendings = built.flatMap (·.2.toList) ∧
        (decls.map FieldDecl.name).Nodup ∧ ∀ decl ∈ decls, decl.name ∉ seen
  | [], _, _, _, built => by
    simp only [Context.buildFields, Except.ok.injEq, Prod.mk.injEq] at built
    obtain ⟨rfl, rfl⟩ := built
    exact ⟨[], .nil, rfl, rfl, List.nodup_nil, by simp⟩
  | decl :: rest, seen, fields, pendings, built => by
    unfold Context.buildFields at built
    by_cases repeated : seen.contains decl.name = true
    · simp only [repeated, if_true] at built
      cases built
    · simp only [repeated, Bool.false_eq_true, if_false] at built
      obtain ⟨⟨field, pending⟩, first, built⟩ := Except.bind_eq_ok_iff.mp built
      obtain ⟨⟨later, laterPendings⟩, restBuilt, built⟩ := Except.bind_eq_ok_iff.mp built
      simp only [pure, Except.pure, Except.ok.injEq, Prod.mk.injEq] at built
      obtain ⟨rfl, rfl⟩ := built
      -- the later declarations are built with this one's name declared
      obtain ⟨others, each, rfl, rfl, distinct, unseen⟩ := buildFields_eq_ok restBuilt
      have fresh : decl.name ∉ seen := by simpa using repeated
      refine ⟨(field, pending) :: others, .cons first each, rfl, by simp, ?_, ?_⟩
      · refine List.nodup_cons.mpr ⟨fun listed => ?_, distinct⟩
        obtain ⟨d, member, sameName⟩ := List.mem_map.mp listed
        exact unseen d member (List.mem_cons.mpr (.inl sameName))
      · intro d member
        rcases List.mem_cons.mp member with rfl | later
        · exact fresh
        · exact fun inSeen => unseen d later (List.mem_cons_of_mem _ inSeen)

theorem Context.buildFields_sound {ctx : Context} {owner : ModelMeta} :
    ∀ {decls : List FieldDecl} {seen : List String} {fields : List Field} {pendings : List Pending},
      ctx.buildFields owner decls seen = .ok (fields, pendings) →
      (∀ field ∈ fields, field.Sound) ∧ ∀ p ∈ pendings, p.2.Sound := by
  intro decls seen fields pendings building
  obtain ⟨built, each, rfl, rfl, -, -⟩ := buildFields_eq_ok building
  have sound : ∀ b ∈ built, b.1.Sound ∧ ∀ p ∈ b.2, p.2.Sound := fun b within => by
    obtain ⟨decl, -, first⟩ := exists_of_forall₂ each b within
    exact buildField_sound first
  refine ⟨fun f member => ?_, fun p member => ?_⟩
  · obtain ⟨b, within, rfl⟩ := List.mem_map.mp member
    exact (sound b within).1
  · obtain ⟨b, within, own⟩ := List.mem_flatMap.mp member
    exact (sound b within).2 p (by simpa using own)

/-- Every schema `build` returns is well formed. -/
theorem build_wellFormed {manifest : Manifest} {schema : Schema} (built : build manifest = .ok schema) :
    schema.WellFormed := by
  unfold build at built
  split at built
  · cases built
  · rename_i unrepeated
    obtain ⟨models, mapped, built⟩ := Except.bind_eq_ok_iff.mp built
    simp only [pure, Except.pure, Except.ok.injEq] at built
    subst built
    obtain ⟨counted, made⟩ := mapM_eq_ok mapped
    have headers : ((manifest.models.map metaOf).zip models).map (·.1) = manifest.models.map metaOf :=
      List.map_fst_zip (by simp [counted])
    -- every built field list and every pending reverse field is sound
    have builtSound : ∀ b ∈ models, (∀ field ∈ b.1, field.Sound) ∧ ∀ p ∈ b.2, p.2.Sound := by
      intro b member
      obtain ⟨⟨decl, header⟩, -, building⟩ := made b member
      exact Context.buildFields_sound building
    have unrepeated : firstRepeat (manifest.models.map ModelDecl.label) [] = none := by
      rcases repeated : firstRepeat (manifest.models.map ModelDecl.label) [] with _ | label
      · rfl
      · exact (unrepeated label repeated).elim
    refine ⟨?_, ?_⟩
    · rw [List.map_map]
      change (((manifest.models.map metaOf).zip models).map fun x => x.1.label).Nodup
      have labels : ((manifest.models.map metaOf).zip models).map (fun x => x.1.label) =
          manifest.models.map ModelDecl.label := by
        calc ((manifest.models.map metaOf).zip models).map (fun x => x.1.label)
            = (((manifest.models.map metaOf).zip models).map (·.1)).map ModelMeta.label := by
              rw [List.map_map]
              rfl
          _ = manifest.models.map ModelDecl.label := by
              rw [headers, List.map_map]
              rfl
      rw [labels]
      exact (firstRepeat_eq_none unrepeated).1
    · intro model member field within
      obtain ⟨⟨header, fields, pendings⟩, pair, rfl⟩ := List.mem_map.mp member
      rcases List.mem_append.mp within with own | reverse
      · exact (builtSound _ (List.of_mem_zip pair).2).1 field own
      · obtain ⟨p, kept, rfl⟩ := List.mem_map.mp reverse
        obtain ⟨b, builtB, pendingB⟩ := List.mem_flatMap.mp (List.mem_filter.mp kept).1
        exact (builtSound b builtB).2 p pendingB

/-- A built field is named as declared; the field it adds to its target is a
reverse field, which has no column. -/
theorem Context.buildField_named {ctx : Context} {owner : ModelMeta} {decl : FieldDecl}
    {field : Field} {pending : Option Pending}
    (built : ctx.buildField owner decl = .ok (field, pending)) :
    field.name = decl.name ∧ ∀ p ∈ pending, p.2.reverse = true ∧ p.2.concrete = false := by
  obtain ⟨preset, choices, -, -, base, rfl, ⟨-, rfl, rfl⟩ | ⟨-, -, target, -, -, -, rfl, rfl⟩⟩ :=
    buildField_eq_ok built
  · exact ⟨rfl, by simp⟩
  · refine ⟨rfl, fun p member => ?_⟩
    split at member
    · cases member
    · simp only [Option.mem_def, Option.some.injEq] at member
      subst member
      exact ⟨rfl, rfl⟩

/-- The forward fields of a model are named apart, and apart from the names already
declared; every field they add to their targets is a reverse field. -/
theorem Context.buildFields_named {ctx : Context} {owner : ModelMeta} :
    ∀ {decls : List FieldDecl} {seen : List String} {fields : List Field} {pendings : List Pending},
      ctx.buildFields owner decls seen = .ok (fields, pendings) →
      (fields.map Field.name).Nodup ∧ (∀ field ∈ fields, field.name ∉ seen) ∧
        ∀ p ∈ pendings, p.2.reverse = true ∧ p.2.concrete = false := by
  intro decls seen fields pendings building
  obtain ⟨built, each, rfl, rfl, distinct, unseen⟩ := buildFields_eq_ok building
  have named := each.imp fun decl b first => buildField_named first
  -- the fields are named as their declarations, in order
  have names : (built.map (·.1)).map Field.name = decls.map FieldDecl.name := by
    rw [List.map_map, ← List.forall₂_eq_eq_eq, List.forall₂_map_left_iff, List.forall₂_map_right_iff]
    exact (named.imp fun decl b facts => facts.1).flip
  refine ⟨names ▸ distinct, fun f member => ?_, fun p member => ?_⟩
  · obtain ⟨b, within, rfl⟩ := List.mem_map.mp member
    obtain ⟨decl, declared, facts⟩ := exists_of_forall₂ named b within
    rw [facts.1]
    exact unseen decl declared
  · obtain ⟨b, within, own⟩ := List.mem_flatMap.mp member
    obtain ⟨decl, -, facts⟩ := exists_of_forall₂ named b within
    exact facts.2 p (by simpa using own)

/-- Every model of a built schema holds its forward fields, named apart, followed by
reverse fields. -/
theorem build_fields {manifest : Manifest} {schema : Schema} (built : build manifest = .ok schema) :
    ∀ model ∈ schema.models, ∃ own reverse, model.fields = own ++ reverse ∧ (own.map Field.name).Nodup ∧
      ∀ field ∈ reverse, field.reverse = true ∧ field.concrete = false := by
  unfold build at built
  split at built
  · cases built
  · obtain ⟨models, mapped, built⟩ := Except.bind_eq_ok_iff.mp built
    simp only [pure, Except.pure, Except.ok.injEq] at built
    subst built
    obtain ⟨-, made⟩ := mapM_eq_ok mapped
    -- every built field list is named apart and every pending field is a reverse field
    have builtNamed : ∀ b ∈ models, (b.1.map Field.name).Nodup ∧
        ∀ p ∈ b.2, p.2.reverse = true ∧ p.2.concrete = false := by
      intro b member
      obtain ⟨⟨decl, header⟩, -, building⟩ := made b member
      obtain ⟨distinct, -, reverse⟩ := Context.buildFields_named building
      exact ⟨distinct, reverse⟩
    intro model member
    obtain ⟨⟨header, fields, pendings⟩, pair, rfl⟩ := List.mem_map.mp member
    refine ⟨fields, _, rfl, (builtNamed _ (List.of_mem_zip pair).2).1, fun field reverse => ?_⟩
    obtain ⟨p, kept, rfl⟩ := List.mem_map.mp reverse
    obtain ⟨b, builtB, pendingB⟩ := List.mem_flatMap.mp (List.mem_filter.mp kept).1
    exact (builtNamed b builtB).2 p pendingB

/-- In a schema with distinct labels, the model of a model's label is that model. -/
theorem WellFormed.model?_label {schema : Schema} (wellFormed : schema.WellFormed) {model : Model}
    (member : model ∈ schema.models) : schema.model? model.label = some model :=
  find?_of_nodup_keys wellFormed.labels member

end Schema

end ModelTables
