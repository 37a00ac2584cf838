import ModelTables.Proofs.Schema
import ModelTables.Catalog.Describe
import Mathlib.Data.List.Forall2

/-! # The shape of a built schema

`Schema.build` makes one model per declaration, in order, and each model's fields
are its forward fields followed by its reverse fields (`Schema.ModelBuilt`):

* the forward fields are built from the declared fields, in order, after an
  implicit primary key `id` of the manifest's default auto-field kind when no field
  is declared a primary key; they are named apart, and the first primary key names
  the model's key;
* the reverse fields answer, one to one and in order, the forward relation fields
  of all models, model by model and field by field, that point at the model and
  whose `relatedName` is not `+`.

Describing a model keeps exactly its forward fields, in order.

Main statement: `build_shape`.
-/

namespace ModelTables

/-- The fields a model declares, the implicit `id` included. -/
def Model.forward (m : Model) : List Field := m.fields.filter fun f => !f.reverse

/-- The fields other models' relations add to a model. -/
def Model.backward (m : Model) : List Field := m.fields.filter (·.reverse)

/-- The label of the model a forward relation field adds a reverse field to: its
target, unless its `relatedName` is `+`. -/
def Field.reverseTarget? (f : Field) : Option String :=
  f.relation.bind fun r => if r.relatedName == some "+" then none else some r.model

/-- A forward field built from a declaration, in the model labelled `label`. -/
structure Field.Declares (label : String) (decl : FieldDecl) (f : Field) : Prop where
  name : f.name = decl.name
  kind : f.kind = decl.kind
  model : f.model = label
  primaryKey : f.primaryKey = decl.isPrimary
  reverse : f.reverse = false
  manyToMany : f.manyToMany = (decl.kind == "ManyToManyField")
  concrete : f.concrete = !f.manyToMany
  relatedName : ∀ r ∈ f.relation, r.relatedName = decl.relatedName

/-- `r` is the reverse field that the forward field `f` of the model `owner` adds to
its target: named by `relatedName`, else after the owner, and pointing back at the
owner through `f`. -/
structure Field.Reverses (owner : ModelMeta) (f r : Field) : Prop where
  name : r.name = (f.relation.bind (·.relatedName)).getD
    (if f.kind = "OneToOneField" then owner.modelName else owner.modelName ++ "_set")
  kind : r.kind = f.kind
  model : f.reverseTarget? = some r.model
  reverse : r.reverse = true
  concrete : r.concrete = false
  manyToMany : r.manyToMany = f.manyToMany
  back : r.relation.map (·.model) = some owner.label
  relatedName : r.relation.bind (·.relatedName) = some f.name

/-! ## Lists related one to one -/

section Forall₂

variable {ε α β γ : Type}

/-- Pairing each element's image with the list it corresponds to. -/
theorem forall₂_zip_map {R : α → β → Prop} {f : α → γ} :
    ∀ {xs : List α} {ys : List β}, List.Forall₂ R xs ys →
      List.Forall₂ (fun x z => z.1 = f x ∧ R x z.2) xs ((xs.map f).zip ys)
  | [], [], .nil => .nil
  | _ :: _, _ :: _, .cons related rest => .cons ⟨rfl, related⟩ (forall₂_zip_map rest)

/-- Two correspondences in a row make one, through the middle list. -/
theorem forall₂_comp {R : α → β → Prop} {S : β → γ → Prop} :
    ∀ {xs : List α} {ys : List β} {zs : List γ}, List.Forall₂ R xs ys → List.Forall₂ S ys zs →
      List.Forall₂ (fun x z => ∃ y, R x y ∧ S y z) xs zs
  | [], [], [], .nil, .nil => .nil
  | _ :: _, _ :: _, _ :: _, .cons r rs, .cons s ss => .cons ⟨_, r, s⟩ (forall₂_comp rs ss)

/-- A correspondence relates members of the left list. -/
theorem forall₂_mem_left {R : α → β → Prop} :
    ∀ {xs : List α} {ys : List β}, List.Forall₂ R xs ys → List.Forall₂ (fun x y => x ∈ xs ∧ R x y) xs ys
  | [], [], .nil => .nil
  | _ :: _, _ :: _, .cons related rest =>
    .cons ⟨List.mem_cons_self .., related⟩
      ((forall₂_mem_left rest).imp fun _ _ held => ⟨List.mem_cons_of_mem _ held.1, held.2⟩)

/-- A filter-map that keeps every element is a map. -/
theorem map_some_filterMap {g : α → Option β} :
    ∀ {l : List α}, (∀ x ∈ l, (g x).isSome) → (l.filterMap g).map some = l.map g
  | [], _ => rfl
  | x :: l, kept => by
    obtain ⟨y, found⟩ := Option.isSome_iff_exists.mp (kept x List.mem_cons_self)
    have rest := map_some_filterMap fun z member => kept z (List.mem_cons_of_mem _ member)
    simp [found, rest]

end Forall₂

/-! ## One declared field -/

/-- A declaration is a primary key exactly when it says so. -/
theorem FieldDecl.isPrimary_eq_getD (decl : FieldDecl) : decl.isPrimary = decl.primaryKey.getD false := by
  unfold FieldDecl.isPrimary
  rcases decl.primaryKey with _ | _ | _ <;> rfl

namespace Schema

/-- A built field is its declaration's forward field, and the reverse field it adds,
if any, goes to its reverse target. -/
theorem Context.buildField_shape {ctx : Context} {owner : ModelMeta} {decl : FieldDecl}
    {field : Field} {pending : Option Pending}
    (built : ctx.buildField owner decl = .ok (field, pending)) :
    field.Declares owner.label decl ∧ pending.map (·.1) = field.reverseTarget? ∧
      ∀ p ∈ pending, field.Reverses owner p.2 := by
  obtain ⟨preset, choices, -, -, base, rfl, ⟨relation, rfl, rfl⟩ | ⟨-, -, target, through, -, -, rfl, rfl⟩⟩ :=
    buildField_eq_ok built
  · -- a field that is not a relation is never many-to-many
    have notMany : (decl.kind == "ManyToManyField") = false := by
      simp only [isRelationKind, Bool.or_eq_false_iff] at relation
      exact relation.2
    exact ⟨⟨rfl, rfl, rfl, (FieldDecl.isPrimary_eq_getD decl).symm, rfl, notMany.symm, rfl, by simp⟩,
      rfl, by simp⟩
  · refine ⟨⟨rfl, rfl, rfl, (FieldDecl.isPrimary_eq_getD decl).symm, rfl, rfl, rfl, by simp⟩, ?_, ?_⟩
    · simp only [Field.reverseTarget?, Option.bind_some]
      split <;> rfl
    · intro p member
      by_cases plus : (decl.relatedName == some "+") = true
      · simp [plus] at member
      · have kept : decl.relatedName ≠ some "+" := by simpa using plus
        simp only [plus, Bool.false_eq_true, if_false, Option.mem_def, Option.some.injEq] at member
        subst member
        exact ⟨by simp [reverseField], rfl, by simp [Field.reverseTarget?, reverseField, kept],
          rfl, rfl, rfl, rfl, rfl⟩

/-- Fields built one by one, each with the reverse field it adds if any, hand their
reverse fields on in order: one for each field with a reverse target. -/
theorem forall₂_reverses {owner : ModelMeta} :
    ∀ {built : List (Field × Option Pending)},
      (∀ b ∈ built, b.2.map (·.1) = b.1.reverseTarget? ∧ ∀ p ∈ b.2, b.1.Reverses owner p.2) →
      List.Forall₂ (fun f p => f.reverseTarget? = some p.1 ∧ f.Reverses owner p.2)
        ((built.map (·.1)).filter (·.reverseTarget?.isSome)) (built.flatMap (·.2.toList))
  | [], _ => .nil
  | (field, pending) :: rest, shaped => by
    obtain ⟨target, reverses⟩ := shaped (field, pending) List.mem_cons_self
    have later := forall₂_reverses fun b within => shaped b (List.mem_cons_of_mem _ within)
    rw [List.map_cons, List.flatMap_cons]
    -- the field adds a reverse field exactly when it has a reverse target
    cases pending with
    | none =>
      have none_ : field.reverseTarget? = none := target.symm
      rw [List.filter_cons_of_neg (by simp [none_])]
      exact later
    | some p =>
      have some_ : field.reverseTarget? = some p.1 := target.symm
      rw [List.filter_cons_of_pos (by simp [some_])]
      exact .cons ⟨some_, reverses p rfl⟩ later

/-- The forward fields of a model follow its declarations one by one, and the
reverse fields they add follow, one by one, those of them with a reverse target. -/
theorem Context.buildFields_shape {ctx : Context} {owner : ModelMeta} :
    ∀ {decls : List FieldDecl} {seen : List String} {fields : List Field} {pendings : List Pending},
      ctx.buildFields owner decls seen = .ok (fields, pendings) →
      List.Forall₂ (Field.Declares owner.label) decls fields ∧
        List.Forall₂ (fun f p => f.reverseTarget? = some p.1 ∧ f.Reverses owner p.2)
          (fields.filter (·.reverseTarget?.isSome)) pendings := by
  intro decls seen fields pendings building
  obtain ⟨built, each, rfl, rfl, -, -⟩ := buildFields_eq_ok building
  have shaped := each.imp fun decl b first => buildField_shape first
  refine ⟨List.forall₂_map_right_iff.mpr (shaped.imp fun decl b facts => facts.1), forall₂_reverses ?_⟩
  intro b within
  obtain ⟨decl, -, -, target, reverses⟩ := exists_of_forall₂ shaped b within
  exact ⟨target, reverses⟩

/-- The first primary key among forward fields is that of their declarations. -/
theorem find?_primaryKey {label : String} {decls : List FieldDecl} {fields : List Field}
    (declared : List.Forall₂ (Field.Declares label) decls fields) :
    (fields.find? (·.primaryKey)).map Field.name = (decls.find? FieldDecl.isPrimary).map (·.name) := by
  induction declared with
  | nil => rfl
  | cons declares rest same =>
    rw [List.find?_cons, List.find?_cons, declares.primaryKey]
    cases FieldDecl.isPrimary _
    · exact same
    · simp [declares.name]

/-- A model's key is the first primary key among the fields its declaration builds. -/
theorem pkName_eq (defaultAutoField : String) (decl : ModelDecl) :
    ((declaredFields defaultAutoField decl).find? FieldDecl.isPrimary).map (·.name) = some (metaOf decl).pkName := by
  unfold declaredFields metaOf
  by_cases declared : decl.fields.any FieldDecl.isPrimary = true
  · obtain ⟨first, found⟩ := Option.isSome_iff_exists.mp (List.find?_isSome.mpr (List.any_eq_true.mp declared))
    simp [declared, found]
  · have none_ : decl.fields.find? FieldDecl.isPrimary = none := by
      simpa [List.find?_eq_none] using declared
    simp [declared, none_, FieldDecl.isPrimary]

end Schema

/-! ## Forward and reverse fields of a model -/

/-- A model whose fields are forward fields followed by reverse ones splits there. -/
theorem Model.forward_backward {m : Model} {own added : List Field} (fields : m.fields = own ++ added)
    (forward : ∀ f ∈ own, f.reverse = false) (backward : ∀ f ∈ added, f.reverse = true) :
    m.forward = own ∧ m.backward = added := by
  constructor
  · rw [Model.forward, fields, List.filter_append, List.filter_eq_self.mpr (by simpa using forward),
      List.filter_eq_nil_iff.mpr (by simpa using backward), List.append_nil]
  · rw [Model.backward, fields, List.filter_append, List.filter_eq_nil_iff.mpr (by simpa using forward),
      List.filter_eq_self.mpr backward, List.nil_append]

namespace Schema

variable (schema : Schema) (kinds : Option KindMap)

/-- A forward field is described: one with a column, or a forward many-to-many
field. -/
theorem describeField_isSome {f : Field} (forward : f.reverse = false) (concrete : f.concrete = !f.manyToMany) :
    (schema.describeField kinds f).isSome := by
  unfold describeField
  cases many : f.manyToMany <;> simp [many, forward, concrete]

/-- A reverse field is not described. -/
theorem describeField_reverse {f : Field} (reverse : f.reverse = true) (concrete : f.concrete = false) :
    schema.describeField kinds f = none := by
  unfold describeField
  cases many : f.manyToMany <;> simp [reverse, concrete]

/-- Describing a model whose fields are forward fields followed by reverse ones
describes exactly the forward fields, in order. -/
theorem describe_fields {m : Model} {own added : List Field} (fields : m.fields = own ++ added)
    (forward : ∀ f ∈ own, f.reverse = false ∧ f.concrete = !f.manyToMany)
    (backward : ∀ f ∈ added, f.reverse = true ∧ f.concrete = false) :
    (schema.describe kinds m).fields.map some = own.map (schema.describeField kinds) := by
  have dropped : added.filterMap (schema.describeField kinds) = [] :=
    List.filterMap_eq_nil_iff.mpr fun f member =>
      describeField_reverse schema kinds (backward f member).1 (backward f member).2
  simp only [describe, fields, List.filterMap_append, dropped, List.append_nil]
  exact map_some_filterMap fun f member =>
    describeField_isSome schema kinds (forward f member).1 (forward f member).2

/-! ## The whole schema -/

/-- What `build` returns, row by row: each declaration gets its metadata and the
fields `buildFields` makes for it, with the reverse fields they add; and each model
holds its row's forward fields followed by the reverse fields every row adds to it. -/
theorem build_rows {manifest : Manifest} {schema : Schema} (built : build manifest = .ok schema) :
    ∃ rows : List (ModelMeta × List Field × List Pending),
      List.Forall₂ (fun decl row => row.1 = metaOf decl ∧
        Context.buildFields { metas := manifest.models.map metaOf, enums := manifest.enums.map ChoiceEnum.ofDecl }
          row.1 (declaredFields manifest.defaultAutoField decl) [] = .ok row.2) manifest.models rows ∧
      List.Forall₂ (fun row model => model.header = row.1 ∧
        model.fields = row.2.1 ++ ((rows.flatMap (·.2.2)).filter (·.1 == row.1.label)).map (·.2))
        rows schema.models := by
  unfold build at built
  split at built
  · cases built
  · obtain ⟨results, mapped, built⟩ := Except.bind_eq_ok_iff.mp built
    simp only [pure, Except.pure, Except.ok.injEq] at built
    subst built
    -- each declaration, paired with its metadata, builds its row
    have each := mapM_forall₂ mapped
    rw [← List.map_prod_left_eq_zip, List.forall₂_map_left_iff] at each
    have counted := each.length_eq
    refine ⟨(manifest.models.map metaOf).zip results,
      (forall₂_zip_map each).imp fun decl row related => ⟨related.1, related.1 ▸ related.2⟩, ?_⟩
    have added : ((manifest.models.map metaOf).zip results).flatMap (·.2.2) = results.flatMap (·.2) := by
      rw [← List.flatMap_map, List.map_snd_zip (by simp [counted])]
    rw [List.forall₂_map_right_iff, List.forall₂_same]
    rintro ⟨header, fields, pendings⟩ -
    exact ⟨rfl, by rw [added]⟩

/-- The fields the rows of `build` add to the models are reverse fields without a
column. -/
theorem rows_added_reverse {manifest : Manifest} {rows : List (ModelMeta × List Field × List Pending)}
    (declared : List.Forall₂ (fun decl row => row.1 = metaOf decl ∧
      Context.buildFields { metas := manifest.models.map metaOf, enums := manifest.enums.map ChoiceEnum.ofDecl }
        row.1 (declaredFields manifest.defaultAutoField decl) [] = .ok row.2) manifest.models rows) :
    ∀ p ∈ rows.flatMap (·.2.2), p.2.reverse = true ∧ p.2.concrete = false := by
  intro p member
  obtain ⟨row, rowMember, pending⟩ := List.mem_flatMap.mp member
  obtain ⟨decl, -, -, building⟩ := exists_of_forall₂ declared row rowMember
  obtain ⟨f, -, answers⟩ := exists_of_forall₂ (Context.buildFields_shape building).2 p pending
  exact ⟨answers.2.reverse, answers.2.concrete⟩

/-- The reverse fields added to the model labelled `label` answer, one by one and in
order, the forward fields of every model that point at it. -/
theorem reverse_answers {rows : List (ModelMeta × List Field × List Pending)} {models : List Model}
    (modeled : List.Forall₂ (fun row model => model.header = row.1 ∧ model.forward = row.2.1 ∧
      List.Forall₂ (fun f p => f.reverseTarget? = some p.1 ∧ f.Reverses row.1 p.2)
        (row.2.1.filter (·.reverseTarget?.isSome)) row.2.2) rows models)
    (label : String) :
    List.Forall₂ (fun (source : ModelMeta × Field) r => source.2.Reverses source.1 r)
      (models.flatMap fun m => (m.forward.filter (·.reverseTarget? == some label)).map (m.header, ·))
      (((rows.flatMap (·.2.2)).filter (·.1 == label)).map (·.2)) := by
  rw [List.filter_flatMap, List.map_flatMap]
  refine List.rel_flatMap (List.Forall₂.flip modeled) ?_
  rintro m row ⟨header, forward, answers⟩
  -- keep, on both sides, what points at `label`
  have kept := List.rel_filter (p := (·.reverseTarget? == some label)) (q := (·.1 == label))
    (fun f p related => by simp [related.1]) answers
  have pointing : (row.2.1.filter fun f => (f.reverseTarget? == some label) && f.reverseTarget?.isSome) =
      row.2.1.filter (·.reverseTarget? == some label) :=
    List.filter_congr fun f _ => by cases f.reverseTarget? <;> simp
  rw [List.filter_filter, pointing] at kept
  dsimp only
  rw [header, forward, List.forall₂_map_left_iff, List.forall₂_map_right_iff]
  exact kept.imp fun f p related => related.2

/-- What `build` makes of a model declaration, in a schema whose models are
`models`. -/
structure ModelBuilt (manifest : Manifest) (models : List Model) (decl : ModelDecl) (model : Model) :
    Prop where
  /-- The model is the declaration's. -/
  label : model.label = decl.label
  /-- Its forward fields come first, then its reverse fields. -/
  split : model.fields = model.forward ++ model.backward
  /-- The forward fields are built from the declared fields, in order, after an
  implicit primary key `id` when no field is declared one ... -/
  forward : List.Forall₂ (Field.Declares model.label)
    (if decl.fields.any FieldDecl.isPrimary then decl.fields
      else { name := "id", kind := manifest.defaultAutoField, primaryKey := some true } :: decl.fields)
    model.forward
  /-- ... and are named apart. -/
  forward_nodup : (model.forward.map Field.name).Nodup
  /-- The model's key is the first primary key among them. -/
  pkName : (model.forward.find? (·.primaryKey)).map Field.name = some model.header.pkName
  /-- The reverse fields answer, one by one and in order, the forward fields of all
  models that point at the model. -/
  backward : List.Forall₂ (fun (source : ModelMeta × Field) r => source.2.Reverses source.1 r)
    (models.flatMap fun m => (m.forward.filter (·.reverseTarget? == some model.label)).map (m.header, ·))
    model.backward

/-- The shape of every schema `build` returns: one model per declaration, in order,
with distinct labels; each model's fields are the forward fields its declaration
builds, then the reverse fields that answer the forward relation fields of all
models pointing at it; and describing a model keeps exactly its forward fields. -/
theorem build_shape {manifest : Manifest} {schema : Schema} (built : build manifest = .ok schema) :
    (schema.models.map Model.label).Nodup ∧
    List.Forall₂ (ModelBuilt manifest schema.models) manifest.models schema.models ∧
    ∀ kinds, ∀ model ∈ schema.models,
      (schema.describe kinds model).fields.map some = model.forward.map (schema.describeField kinds) := by
  obtain ⟨rows, declared, modeled⟩ := build_rows built
  -- what each row holds, from the fields its declaration builds
  have rowShape : ∀ row ∈ rows, (∀ f ∈ row.2.1, f.reverse = false ∧ f.concrete = !f.manyToMany) ∧
      List.Forall₂ (fun f p => f.reverseTarget? = some p.1 ∧ f.Reverses row.1 p.2)
        (row.2.1.filter (·.reverseTarget?.isSome)) row.2.2 := by
    intro row member
    obtain ⟨decl, -, -, building⟩ := exists_of_forall₂ declared row member
    obtain ⟨declares, answers⟩ := Context.buildFields_shape building
    refine ⟨fun f own => ?_, answers⟩
    obtain ⟨d, -, declaresF⟩ := exists_of_forall₂ declares f own
    exact ⟨declaresF.reverse, declaresF.concrete⟩
  -- every reverse field a row adds is a reverse field without a column
  have addedShape := rows_added_reverse declared
  -- so each model splits into its row's forward fields and the reverse fields added to it
  have splits : ∀ row ∈ rows, ∀ model : Model, model.fields = row.2.1 ++
      ((rows.flatMap (·.2.2)).filter (·.1 == row.1.label)).map (·.2) →
      model.forward = row.2.1 ∧
        model.backward = ((rows.flatMap (·.2.2)).filter (·.1 == row.1.label)).map (·.2) := by
    intro row member model fields
    refine Model.forward_backward fields (fun f own => ((rowShape row member).1 f own).1) ?_
    intro f added
    obtain ⟨p, kept, rfl⟩ := List.mem_map.mp added
    exact (addedShape p (List.mem_filter.mp kept).1).1
  have answered := reverse_answers ((forall₂_mem_left modeled).imp fun row model held =>
    ⟨held.2.1, (splits row held.1 model held.2.2).1, (rowShape row held.1).2⟩)
  refine ⟨(build_wellFormed built).labels, (forall₂_comp declared (forall₂_mem_left modeled)).imp ?_, ?_⟩
  · rintro decl model ⟨row, ⟨header, building⟩, member, headerM, fields⟩
    obtain ⟨forward, backward⟩ := splits row member model fields
    obtain ⟨declares, -⟩ := Context.buildFields_shape building
    have label : model.label = row.1.label := by rw [Model.label, headerM]; rfl
    refine ⟨by rw [label, header]; rfl, by rw [forward, backward]; exact fields, ?_, ?_, ?_, ?_⟩
    · rw [forward, label]
      exact declares
    · rw [forward]
      exact (Context.buildFields_named building).1
    · rw [forward, find?_primaryKey declares, pkName_eq, headerM, header]
    · rw [backward, label]
      exact answered row.1.label
  · intro kinds model member
    obtain ⟨row, rowMember, -, fields⟩ := exists_of_forall₂ modeled model member
    rw [(splits row rowMember model fields).1]
    exact describe_fields schema kinds fields (rowShape row rowMember).1 fun f added => by
      obtain ⟨p, kept, rfl⟩ := List.mem_map.mp added
      exact addedShape p (List.mem_filter.mp kept).1

/-- Authors and books: an implicit key and a declared one, a self relation, a foreign
key named back by `relatedName`, a one-to-one field that asks for no reverse field,
and a many-to-many field. -/
def libraryManifest : Manifest :=
  { defaultAutoField := "BigAutoField", enums := []
    models := [
      { app := "lib", name := "Author"
        fields := [{ name := "name", kind := "CharField" },
          { name := "mentor", kind := "ForeignKey", relatedTo := some "self" }] },
      { app := "lib", name := "Book"
        fields := [{ name := "isbn", kind := "CharField", primaryKey := some true },
          { name := "author", kind := "ForeignKey", relatedTo := some "Author", relatedName := some "books" },
          { name := "editor", kind := "OneToOneField", relatedTo := some "lib.Author", relatedName := some "+" },
          { name := "readers", kind := "ManyToManyField", relatedTo := some "Author" }] }] }

theorem build_shape_on_library :
    ∃ schema, build libraryManifest = .ok schema ∧
      (schema.models.map Model.label).Nodup ∧
      List.Forall₂ (ModelBuilt libraryManifest schema.models) libraryManifest.models schema.models ∧
      ∀ kinds, ∀ model ∈ schema.models,
        (schema.describe kinds model).fields.map some = model.forward.map (schema.describeField kinds) :=
  ⟨_, rfl, build_shape rfl⟩

end Schema

end ModelTables
