import ModelTables.Schema.Basic
import ModelTables.Text.Case
import ModelTables.Failure

/-! # Building the schema from a manifest

`Schema.build manifest` turns declarations into models:

* each model gets its metadata: `modelName` is the lower-cased name, the module
  `<app>/models`, the table `<app>_<modelName>`, `managed` true, and `pkName` the
  first primary key's name, else `id`;
* a model without a declared primary key gets a leading `id` field of the
  manifest's default auto-field kind;
* relation fields (`ForeignKey`, `OneToOneField`, `ManyToManyField`) resolve their
  target: `self`, a label `app.Name`, or a name in the same app;
* every relation whose `relatedName` is not `+` adds a reverse field to its target,
  after all forward fields, in declaration order.

The first violation in scan order fails the build: duplicate labels first, then
per model and per field in order: a repeated name, the default, the choices, a
missing target, an unknown target.
-/

namespace ModelTables

namespace Schema

/-- The kinds of relation fields. -/
def isRelationKind (kind : String) : Bool :=
  kind == "ForeignKey" || kind == "OneToOneField" || kind == "ManyToManyField"

/-- The metadata of a declared model. -/
def metaOf (decl : ModelDecl) : ModelMeta :=
  let modelName := Text.lower decl.name
  { appLabel := decl.app
    objectName := decl.name
    modelName
    module := decl.module.getD (decl.app ++ "/models")
    dbTable := decl.table.getD (decl.app ++ "_" ++ modelName)
    abstract := decl.abstract.getD false
    proxy := decl.proxy.getD false
    managed := decl.managed.getD true
    uniqueTogether := decl.uniqueTogether.getD []
    pkName := ((decl.fields.find? FieldDecl.isPrimary).map (·.name)).getD "id" }

/-- What the builder knows while resolving fields: every model's metadata and
every enum. -/
structure Context where
  metas : List ModelMeta
  enums : List ChoiceEnum

/-- Resolve a relation target: `self`, a dotted label, or a name in the same app. -/
def Context.resolveModel (ctx : Context) (reference : String) (owner : ModelMeta)
    (fieldPath : String) : Except Failure ModelMeta :=
  if reference == "self" then .ok owner
  else
    let label := if reference.toList.contains '.' then reference
      else owner.appLabel ++ "." ++ reference
    match ctx.metas.find? (·.label == label) with
    | some m => .ok m
    | none => .error (.unknownRelatedModel fieldPath reference)

/-- Resolve an enum by name. -/
def Context.resolveEnum (ctx : Context) (name : String) (fieldPath : String) :
    Except Failure ChoiceEnum :=
  match ctx.enums.find? (·.name == name) with
  | some e => .ok e
  | none => .error (.unknownEnum fieldPath name)

/-- Resolve a declared default: `{enum, member}` with two texts names a member,
otherwise `{factory}` with a text names a factory, a function is a factory of its
own, and anything else is a literal.  Factories are looked up by a plain property
read, so a name every object inherits finds that member: a method is a factory of
its own, and `__proto__` finds the object prototype, a literal object. -/
def Context.resolveDefault (ctx : Context) (decl : FieldDecl) (fieldPath : String) :
    Except Failure Preset :=
  match decl.default with
  | none => .ok .none
  | some v =>
    match v with
    | .object _ =>
      match v.field "enum", v.field "member", v.field "factory" with
      | .string enumName, .string memberName, _ => do
        let e ← ctx.resolveEnum enumName fieldPath
        match e.member? memberName with
        | some m => .ok (.member e m)
        | none => .error (.unknownEnumMember fieldPath enumName memberName)
      | _, _, .string factoryName =>
        match Factory.ofName? factoryName, Inherited.of? factoryName with
        | some f, _ => .ok (.factory f)
        | none, some (.method key) => .ok (.factory (.inherited key))
        | none, some .prototype => .ok (.literal (.inherited .prototype))
        | none, none => .error (.unknownFactory fieldPath factoryName)
      | _, _, _ => .ok (.literal v)
    | .callable => .ok (.factory .given)
    | other => .ok (.literal other)

/-- Resolve declared choices: explicit pairs (none when empty), an enum's choices,
or those of the enum the default is a member of. -/
def Context.resolveChoices (ctx : Context) (decl : FieldDecl) (preset : Preset)
    (fieldPath : String) : Except Failure (Option (List (ChoiceValue × String))) :=
  match decl.choices with
  | some (.pairs ps) => .ok (if ps.isEmpty then none else some ps)
  | some (.ofEnum name _) => (ctx.resolveEnum name fieldPath).map fun e => some e.choices
  | none => match preset with
    | .member e _ => .ok (some e.choices)
    | _ => .ok none

/-- A reverse field still to be added to a target: the target's label and the field. -/
abbrev Pending := String × Field

/-- The reverse field of a forward relation field. -/
def reverseField (owner : ModelMeta) (target : ModelMeta) (decl : FieldDecl)
    (manyToMany : Bool) : Field :=
  let accessor := decl.relatedName.getD
    (if decl.kind == "OneToOneField" then owner.modelName else owner.modelName ++ "_set")
  { name := accessor, kind := decl.kind, model := target.label, column := none
    concrete := false, manyToMany, reverse := true, primaryKey := false, null := true
    unique := false, dbIndex := false, hasDefault := false, default := .none
    maxLength := none, maxDigits := none, decimalPlaces := none, choices := none
    relation := some { model := owner.label, onDelete := none, relatedName := some decl.name
                       toField := none, through := none, throughTable := none } }

/-- Build one declared field, with the reverse field it adds, if any. -/
def Context.buildField (ctx : Context) (owner : ModelMeta) (decl : FieldDecl) :
    Except Failure (Field × Option Pending) := do
  let fieldPath := owner.label ++ "." ++ decl.name
  let preset ← ctx.resolveDefault decl fieldPath
  let choices ← ctx.resolveChoices decl preset fieldPath
  let base : Field :=
    { name := decl.name, kind := decl.kind, model := owner.label
      column := some (decl.column.getD decl.name), concrete := true, manyToMany := false
      reverse := false, primaryKey := decl.primaryKey.getD false, null := decl.null.getD false
      unique := decl.unique.getD false, dbIndex := decl.dbIndex.getD false
      hasDefault := decl.hasDefault, default := preset, maxLength := decl.maxLength
      maxDigits := decl.maxDigits, decimalPlaces := decl.decimalPlaces, choices
      relation := none }
  if !isRelationKind decl.kind then return (base, none)
  let some relatedTo := decl.relatedTo | throw (.relationWithoutTarget fieldPath)
  let target ← ctx.resolveModel relatedTo owner fieldPath
  let manyToMany := decl.kind == "ManyToManyField"
  let through ← match decl.through with
    | some t => (ctx.resolveModel t owner fieldPath).map some
    | none => pure none
  let throughTable := if manyToMany then
      some (decl.throughTable.getD ((through.map (·.dbTable)).getD (owner.dbTable ++ "_" ++ decl.name)))
    else none
  let field : Field :=
    { base with
      column := if manyToMany then none else some (decl.column.getD (decl.name ++ "_id"))
      concrete := !manyToMany
      manyToMany
      relation := some { model := target.label, onDelete := decl.onDelete
                         relatedName := decl.relatedName, toField := decl.toField
                         through := through.map (·.label), throughTable } }
  let pending := if decl.relatedName == some "+" then none
    else some (target.label, reverseField owner target decl manyToMany)
  return (field, pending)

/-- The declared fields of a model, with the implicit `id` first when no field is a
primary key. -/
def declaredFields (defaultAutoField : String) (decl : ModelDecl) : List FieldDecl :=
  if decl.fields.any FieldDecl.isPrimary then decl.fields
  else { name := "id", kind := defaultAutoField, primaryKey := some true } :: decl.fields

/-- Build the forward fields of one model, collecting the reverse fields they add. -/
def Context.buildFields (ctx : Context) (owner : ModelMeta) :
    List FieldDecl → List String → Except Failure (List Field × List Pending)
  | [], _ => .ok ([], [])
  | decl :: rest, seen => do
    if seen.contains decl.name then throw (.duplicateField (owner.label ++ "." ++ decl.name))
    let (field, pending) ← ctx.buildField owner decl
    let (fields, pendings) ← ctx.buildFields owner rest (decl.name :: seen)
    return (field :: fields, pending.toList ++ pendings)

/-- The first label that occurs twice, scanning in order. -/
def firstRepeat : List String → List String → Option String
  | [], _ => none
  | l :: rest, seen => if seen.contains l then some l else firstRepeat rest (l :: seen)

/-- Build the schema of a manifest. -/
def build (manifest : Manifest) : Except Failure Schema := do
  if let some label := firstRepeat (manifest.models.map ModelDecl.label) [] then
    throw (.duplicateModel label)
  let metas := manifest.models.map metaOf
  let ctx : Context := { metas, enums := manifest.enums.map ChoiceEnum.ofDecl }
  let built ← (manifest.models.zip metas).mapM fun (decl, header) =>
    ctx.buildFields header (declaredFields manifest.defaultAutoField decl) []
  let pendings := built.flatMap (·.2)
  let models := (metas.zip built).map fun (header, (fields, _)) =>
    let label := header.label
    { header, fields := fields ++ (pendings.filter (·.1 == label)).map (·.2) : Model }
  return { models }

end Schema

end ModelTables
