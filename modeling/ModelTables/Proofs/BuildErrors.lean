import ModelTables.Schema.Build

/-! # When building a schema fails, and with which error

`Schema.build` checks a manifest in one scan and stops at the first problem.
`Manifest.violations` lists every problem the scan can meet, in scan order, each as
the failure it raises:

1. a label `app.Name` that an earlier model already has (all labels come first);

then, for each model in order and each of its fields in order, the implicit `id`
placed first when no declared field is a primary key:

2. a field name declared earlier in the model;
3. a default that is an object whose `enum` and `member` entries are texts, naming
   an enum the manifest lacks or a member that enum lacks;
4. a default that is an object whose `factory` entry is a text (and that names no
   enum member), naming something the factory lookup does not find;
5. choices `{enum: E}` naming an enum the manifest lacks;
6. a relation field (`ForeignKey`, `OneToOneField`, `ManyToManyField`) without `to`;
7. a `to`, then a `through`, that names no declared model, read as `self`, a
   dotted label, or a model name in the field's own app.

Main statement: `build_fails_at_first_violation`: the build fails exactly when the
list is not empty, with its first entry, and every entry is a schema error.  The
proof reads each step of the build as a check that fails with the first of its
problems (`FailsFirst`); a sequence of such steps fails with the first problem of
all of them (`FailsFirst.bind`, `FailsFirst.mapM`).
-/

namespace ModelTables

/-! ## Failing with the first problem -/

/-- `x` fails with the first of `problems`, and succeeds when there are none. -/
def FailsFirst {α : Type} (x : Except Failure α) (problems : List Failure) : Prop :=
  ∀ f, x = .error f ↔ problems.head? = some f

namespace FailsFirst

variable {α β : Type} {x : Except Failure α} {problems : List Failure}

theorem of_pure (a : α) : FailsFirst (pure a : Except Failure α) [] := by
  intro f
  simp [pure, Except.pure]

theorem of_throw (f : Failure) : FailsFirst (throw f : Except Failure α) [f] := by
  intro f'
  simp only [throw, throwThe, MonadExceptOf.throw, Except.error.injEq, List.head?_cons, Option.some.injEq]

theorem eq_nil_of_ok (first : FailsFirst x problems) {a : α} (ok : x = .ok a) : problems = [] := by
  cases found : problems.head? with
  | none => exact List.head?_eq_none_iff.mp found
  | some f =>
    have failed := (first f).mpr found
    rw [ok] at failed
    cases failed

theorem ok_iff (first : FailsFirst x problems) : (∃ a, x = .ok a) ↔ problems = [] := by
  constructor
  · rintro ⟨a, ok⟩
    exact first.eq_nil_of_ok ok
  · intro noProblems
    cases x with
    | ok a => exact ⟨a, rfl⟩
    | error f =>
      have head := (first f).mp rfl
      rw [noProblems] at head
      cases head

/-- A step that fails with the first of its problems, followed by steps that do the
same with later problems, fails with the first problem of all. -/
theorem bind {k : α → Except Failure β} {later : List Failure} (first : FailsFirst x problems)
    (rest : ∀ a, x = .ok a → FailsFirst (k a) later) : FailsFirst (x >>= k) (problems ++ later) := by
  cases x with
  | error f =>
    intro f'
    have head := (first f).mp rfl
    obtain ⟨others, firstIs⟩ : ∃ others, problems = f :: others := by
      cases problems with
      | nil => cases head
      | cons g others =>
        cases head
        exact ⟨others, rfl⟩
    simp only [bind, Except.bind, Except.error.injEq, firstIs, List.cons_append, List.head?_cons,
      Option.some.injEq]
  | ok a =>
    rw [first.eq_nil_of_ok rfl, List.nil_append]
    exact rest a rfl

theorem map (first : FailsFirst x problems) (g : α → β) : FailsFirst (g <$> x) problems := by
  intro f
  cases x with
  | error f' => simpa [Functor.map, Except.map] using first f
  | ok a => simpa [Functor.map, Except.map] using first f

/-- Mapping over a list fails with the first problem of its elements, in order. -/
theorem mapM {g : α → Except Failure β} {problemsOf : α → List Failure} :
    ∀ (xs : List α), (∀ x ∈ xs, FailsFirst (g x) (problemsOf x)) →
      FailsFirst (xs.mapM g) (xs.flatMap problemsOf)
  | [], _ => of_pure []
  | x :: rest, each => by
    rw [List.mapM_cons, List.flatMap_cons, ← List.append_nil (List.flatMap problemsOf rest)]
    exact (each x List.mem_cons_self).bind fun _ _ =>
      (mapM rest fun y member => each y (List.mem_cons_of_mem x member)).bind fun _ _ => of_pure _

end FailsFirst

/-! ## The problems of a manifest -/

/-- What a declared default names: an enum member, when it is an object whose
`enum` and `member` entries are texts; else a factory, when it is an object whose
`factory` entry is a text. -/
inductive DefaultRef where
  | member (enumName memberName : String)
  | factory (name : String)

/-- The name a declared default refers to, if any. -/
def DefaultRef.of? : Option Value → Option DefaultRef
  | some (.object fields) =>
    match (Value.object fields).field "enum", (Value.object fields).field "member",
      (Value.object fields).field "factory" with
    | .string enumName, .string memberName, _ => some (.member enumName memberName)
    | _, _, .string f => some (.factory f)
    | _, _, _ => none
  | _ => none

namespace DefaultRef

theorem of?_member {fields : Fields} {enumName memberName : String}
    (enumIs : (Value.object fields).field "enum" = .string enumName)
    (memberIs : (Value.object fields).field "member" = .string memberName) :
    of? (some (.object fields)) = some (.member enumName memberName) := by
  simp only [of?, enumIs, memberIs]

theorem of?_factory {fields : Fields} {factoryName : String}
    (factoryIs : (Value.object fields).field "factory" = .string factoryName)
    (notMember : ∀ enumName memberName, (Value.object fields).field "enum" = .string enumName →
      (Value.object fields).field "member" = .string memberName → False) :
    of? (some (.object fields)) = some (.factory factoryName) := by
  -- the member pattern's overlap is ruled out by `notMember`
  simp only [of?, factoryIs]

theorem of?_none {fields : Fields}
    (notMember : ∀ enumName memberName, (Value.object fields).field "enum" = .string enumName →
      (Value.object fields).field "member" = .string memberName → False)
    (notFactory : ∀ factoryName, (Value.object fields).field "factory" = .string factoryName → False) :
    of? (some (.object fields)) = none := by
  simp only [of?]

end DefaultRef

/-- Whether the factory lookup finds a name: a known factory, or a member every
object inherits. -/
def factoryFound (name : String) : Bool := (Factory.ofName? name).isSome || (Inherited.of? name).isSome

namespace Manifest

variable (m : Manifest)

/-- Whether the manifest declares an enum of a name. -/
def declaresEnum (name : String) : Bool := m.enums.any (·.name == name)

/-- Whether the manifest's enum of a name (the first declared under it) has a
member. -/
def enumHasMember (name member : String) : Bool :=
  match m.enums.find? (·.name == name) with
  | some e => e.members.any (·.1 == member)
  | none => false

/-- The label a relation reference names from a model of `app`: a dotted reference
is a label, any other is a model name in `app`. -/
def referenceLabel (app reference : String) : String :=
  if reference.toList.contains '.' then reference else app ++ "." ++ reference

/-- Whether a relation reference from a model of `app` names a declared model. -/
def names (app reference : String) : Bool :=
  reference == "self" || m.models.any (·.label == referenceLabel app reference)

theorem declaresEnum_eq (name : String) : m.declaresEnum name = (m.enums.find? (·.name == name)).isSome :=
  List.isSome_find?.symm

theorem names_eq (app reference : String) :
    m.names app reference =
      (reference == "self" || (m.models.find? (·.label == referenceLabel app reference)).isSome) := by
  rw [names, List.isSome_find?]

/-- (3) and (4): the problem of what a default names. -/
def defaultViolation? (path : String) : DefaultRef → Option Failure
  | .member e member =>
    if !m.declaresEnum e then some (.unknownEnum path e)
    else if !m.enumHasMember e member then some (.unknownEnumMember path e member)
    else none
  | .factory f => if factoryFound f then none else some (.unknownFactory path f)

/-- (5): the problem of declared choices. -/
def choicesViolation? (path : String) : Option ChoicesDecl → Option Failure
  | some (.ofEnum e _) => if m.declaresEnum e then none else some (.unknownEnum path e)
  | _ => none

/-- (6) and (7): the problems of a relation field's target and join model. -/
def targetViolations (app path : String) (decl : FieldDecl) : List Failure :=
  match decl.relatedTo with
  | none => [.relationWithoutTarget path]
  | some target =>
    (if m.names app target then [] else [.unknownRelatedModel path target]) ++
      match decl.through with
      | some through => if m.names app through then [] else [.unknownRelatedModel path through]
      | none => []

/-- (3) to (7): the problems of one field of a model of `app`, at `path`, in the order
the build checks them. -/
def fieldViolations (app path : String) (decl : FieldDecl) : List Failure :=
  (((DefaultRef.of? decl.default).bind (m.defaultViolation? path)).toList ++
    (m.choicesViolation? path decl.choices).toList) ++
    if Schema.isRelationKind decl.kind then m.targetViolations app path decl else []

/-- (2) to (7): the problems of the fields of the model `label` of `app`, in order;
`before` names the fields declared earlier. -/
def fieldsViolations (label app : String) : List String → List FieldDecl → List Failure
  | _, [] => []
  | before, decl :: rest =>
    ((if before.contains decl.name then [.duplicateField (label ++ "." ++ decl.name)] else []) ++
      m.fieldViolations app (label ++ "." ++ decl.name) decl) ++
      fieldsViolations label app (decl.name :: before) rest

/-- (1): the labels that repeat an earlier one, in order. -/
def labelViolations : List String → List String → List Failure
  | [], _ => []
  | label :: rest, before =>
    (if before.contains label then [.duplicateModel label] else []) ++ labelViolations rest (label :: before)

/-- Every problem of the manifest, in scan order. -/
def violations : List Failure :=
  labelViolations (m.models.map ModelDecl.label) [] ++
    m.models.flatMap fun decl =>
      m.fieldsViolations decl.label decl.app [] (Schema.declaredFields m.defaultAutoField decl)

end Manifest

/-! ## Each step of the build -/

namespace Schema

variable {m : Manifest} {ctx : Context}

theorem metaOf_label (decl : ModelDecl) : (metaOf decl).label = decl.label := rfl

theorem metaOf_appLabel (decl : ModelDecl) : (metaOf decl).appLabel = decl.app := rfl

theorem firstRepeat_violations : ∀ (labels before : List String),
    (Manifest.labelViolations labels before).head? = (firstRepeat labels before).map .duplicateModel
  | [], _ => rfl
  | label :: rest, before => by
    unfold Manifest.labelViolations firstRepeat
    by_cases seen : before.contains label = true
    · rw [if_pos seen, if_pos seen]
      rfl
    · rw [if_neg seen, if_neg seen, List.nil_append]
      exact firstRepeat_violations rest (label :: before)

theorem resolveEnum_eq (enums : ctx.enums = m.enums.map ChoiceEnum.ofDecl) (name path : String) :
    ctx.resolveEnum name path = match m.enums.find? (·.name == name) with
      | some e => .ok (ChoiceEnum.ofDecl e)
      | none => .error (.unknownEnum path name) := by
  unfold Context.resolveEnum
  rw [enums, List.find?_map]
  have same : ((fun e : ChoiceEnum => e.name == name) ∘ ChoiceEnum.ofDecl) = fun e : EnumDecl => e.name == name := rfl
  rw [same]
  cases m.enums.find? (·.name == name) <;> rfl

theorem member?_isSome (decl : EnumDecl) (name : String) :
    ((ChoiceEnum.ofDecl decl).member? name).isSome = decl.members.any (·.1 == name) := by
  simp only [ChoiceEnum.member?, ChoiceEnum.ofDecl, List.find?_map, Option.isSome_map, List.isSome_find?]
  rfl

theorem resolveMember_failsFirst (enums : ctx.enums = m.enums.map ChoiceEnum.ofDecl) (enumName memberName path : String) :
    FailsFirst (do
        let e ← ctx.resolveEnum enumName path
        match e.member? memberName with
        | some found => .ok (Preset.member e found)
        | none => .error (.unknownEnumMember path enumName memberName))
      (m.defaultViolation? path (.member enumName memberName)).toList := by
  rw [resolveEnum_eq enums]
  unfold Manifest.defaultViolation? Manifest.enumHasMember
  cases found : m.enums.find? (·.name == enumName) with
  | none =>
    simp only [Manifest.declaresEnum_eq, found, Option.isSome_none, Bool.not_false, if_true,
      Option.toList_some]
    exact FailsFirst.of_throw _
  | some e =>
    simp only [Manifest.declaresEnum_eq, found, Option.isSome_some, Bool.not_true, Bool.false_eq_true,
      if_false, ← member?_isSome, bind, Except.bind]
    cases (ChoiceEnum.ofDecl e).member? memberName with
    | none => exact FailsFirst.of_throw _
    | some _ => exact FailsFirst.of_pure _

theorem resolveDefault_failsFirst (enums : ctx.enums = m.enums.map ChoiceEnum.ofDecl) (decl : FieldDecl)
    (path : String) :
    FailsFirst (ctx.resolveDefault decl path) ((DefaultRef.of? decl.default).bind (m.defaultViolation? path)).toList := by
  unfold Context.resolveDefault
  rcases decl.default with _ | v
  · exact FailsFirst.of_pure _
  cases v with
  | object fields =>
    dsimp only
    split
    · rename_i enumName memberName enumIs memberIs
      rw [DefaultRef.of?_member enumIs memberIs, Option.bind_some]
      exact resolveMember_failsFirst enums enumName memberName path
    · rename_i factoryName factoryIs notMember
      rw [DefaultRef.of?_factory factoryIs notMember, Option.bind_some]
      simp only [Manifest.defaultViolation?, factoryFound]
      split
      · rename_i known
        simp only [known, Option.isSome_some, Bool.true_or, if_true]
        exact FailsFirst.of_pure _
      case h_2 | h_3 =>
        rename_i unknown inherited
        simp only [unknown, inherited, Option.isSome_none, Option.isSome_some, Bool.or_true, if_true]
        exact FailsFirst.of_pure _
      · rename_i unknown notInherited
        simp only [unknown, notInherited, Option.isSome_none, Bool.or_false, Bool.false_eq_true,
          if_false, Option.toList_some]
        exact FailsFirst.of_throw _
    · rename_i notMember notFactory
      rw [DefaultRef.of?_none notMember notFactory]
      exact FailsFirst.of_pure _
  | _ => exact FailsFirst.of_pure _

theorem resolveChoices_failsFirst (enums : ctx.enums = m.enums.map ChoiceEnum.ofDecl) (decl : FieldDecl)
    (preset : Preset) (path : String) :
    FailsFirst (ctx.resolveChoices decl preset path) (m.choicesViolation? path decl.choices).toList := by
  unfold Context.resolveChoices Manifest.choicesViolation?
  rcases decl.choices with _ | pairs | ⟨name, declared⟩
  · cases preset <;> exact FailsFirst.of_pure _
  · exact FailsFirst.of_pure _
  · dsimp only
    rw [resolveEnum_eq enums, Manifest.declaresEnum_eq]
    cases m.enums.find? (·.name == name) with
    | none =>
      simp only [Option.isSome_none, Bool.false_eq_true, if_false, Option.toList_some]
      exact FailsFirst.of_throw _
    | some e =>
      simp only [Option.isSome_some, if_true, Option.toList_none]
      exact FailsFirst.of_pure _

theorem find?_metas (label : String) :
    (m.models.map metaOf).find? (·.label == label) = (m.models.find? (·.label == label)).map metaOf := by
  rw [List.find?_map]
  rfl

theorem resolveModel_failsFirst (metas : ctx.metas = m.models.map metaOf) (decl : ModelDecl)
    (reference path : String) :
    FailsFirst (ctx.resolveModel reference (metaOf decl) path)
      (if m.names decl.app reference then [] else [.unknownRelatedModel path reference]) := by
  unfold Context.resolveModel
  rw [Manifest.names_eq]
  by_cases self : reference = "self"
  · simp only [self, beq_self_eq_true, if_true, Bool.true_or]
    exact FailsFirst.of_pure _
  · have notSelf : (reference == "self") = false := by simpa using self
    dsimp only
    rw [metas, find?_metas, metaOf_appLabel]
    simp only [notSelf, Bool.false_eq_true, if_false, Bool.false_or, Manifest.referenceLabel]
    cases m.models.find? (·.label ==
        if reference.toList.contains '.' then reference else decl.app ++ "." ++ reference) with
    | none => exact FailsFirst.of_throw _
    | some _ => exact FailsFirst.of_pure _

theorem buildField_failsFirst (enums : ctx.enums = m.enums.map ChoiceEnum.ofDecl)
    (metas : ctx.metas = m.models.map metaOf) (owner : ModelDecl) (decl : FieldDecl) :
    FailsFirst (ctx.buildField (metaOf owner) decl)
      (m.fieldViolations owner.app (owner.label ++ "." ++ decl.name) decl) := by
  unfold Context.buildField Manifest.fieldViolations
  dsimp only
  rw [List.append_assoc]
  refine (resolveDefault_failsFirst enums decl _).bind fun preset _ =>
    (resolveChoices_failsFirst enums decl preset _).bind fun choices _ => ?_
  by_cases relation : isRelationKind decl.kind = true
  · simp only [relation, if_true, Bool.not_true, Bool.false_eq_true, if_false]
    unfold Manifest.targetViolations
    cases decl.relatedTo with
    | none => exact FailsFirst.of_throw _
    | some reference =>
      dsimp only
      refine (resolveModel_failsFirst metas owner reference _).bind fun resolved _ => ?_
      cases decl.through with
      | none => exact (FailsFirst.of_pure none).bind fun _ _ => FailsFirst.of_pure _
      | some through =>
        dsimp only
        rw [← List.append_nil (if m.names owner.app through then [] else _)]
        exact ((resolveModel_failsFirst metas owner through _).map some).bind fun _ _ => FailsFirst.of_pure _
  · simp only [relation, Bool.false_eq_true, if_false, Bool.not_false, if_true]
    exact FailsFirst.of_pure _

theorem buildFields_failsFirst (enums : ctx.enums = m.enums.map ChoiceEnum.ofDecl)
    (metas : ctx.metas = m.models.map metaOf) (owner : ModelDecl) :
    ∀ (decls : List FieldDecl) (before : List String),
      FailsFirst (ctx.buildFields (metaOf owner) decls before)
        (m.fieldsViolations owner.label owner.app before decls)
  | [], _ => FailsFirst.of_pure _
  | decl :: rest, before => by
    unfold Context.buildFields Manifest.fieldsViolations
    by_cases repeated : before.contains decl.name = true
    · simp only [repeated, if_true]
      exact (FailsFirst.of_throw _).bind fun _ never => by cases never
    · simp only [repeated, Bool.false_eq_true, if_false, List.nil_append]
      rw [← List.append_nil (m.fieldsViolations owner.label owner.app (decl.name :: before) rest)]
      exact (buildField_failsFirst enums metas owner decl).bind fun _ _ =>
        (buildFields_failsFirst enums metas owner rest (decl.name :: before)).bind fun _ _ =>
          FailsFirst.of_pure _

theorem zip_map_self {α β : Type} (f : α → β) : ∀ (xs : List α), xs.zip (xs.map f) = xs.map fun x => (x, f x)
  | [] => rfl
  | x :: rest => by simp [zip_map_self f rest]

theorem build_failsFirst (m : Manifest) : FailsFirst (build m) m.violations := by
  unfold build Manifest.violations
  have labels := firstRepeat_violations (m.models.map ModelDecl.label) []
  cases repeated : firstRepeat (m.models.map ModelDecl.label) [] with
  | some label =>
    rw [repeated] at labels
    obtain ⟨others, first⟩ : ∃ others, Manifest.labelViolations (m.models.map ModelDecl.label) [] =
        .duplicateModel label :: others := by
      cases found : Manifest.labelViolations (m.models.map ModelDecl.label) [] with
      | nil => simp [found] at labels
      | cons head others =>
        simp only [found, List.head?_cons, Option.map_some, Option.some.injEq] at labels
        exact ⟨others, by rw [labels]⟩
    dsimp only
    rw [first]
    exact (FailsFirst.of_throw _).bind fun _ never => by cases never
  | none =>
    rw [repeated] at labels
    have noLabels : Manifest.labelViolations (m.models.map ModelDecl.label) [] = [] :=
      List.head?_eq_none_iff.mp labels
    -- the models are scanned paired with their metadata
    have paired : (m.models.flatMap fun decl =>
          m.fieldsViolations decl.label decl.app [] (declaredFields m.defaultAutoField decl)) =
        (m.models.zip (m.models.map metaOf)).flatMap fun x =>
          m.fieldsViolations x.1.label x.1.app [] (declaredFields m.defaultAutoField x.1) := by
      rw [zip_map_self, List.flatMap_map]
    dsimp only
    rw [noLabels, List.nil_append, paired, ← List.append_nil (List.flatMap _ _)]
    refine (FailsFirst.mapM _ fun x member => ?_).bind fun _ _ => FailsFirst.of_pure _
    rw [zip_map_self, List.mem_map] at member
    obtain ⟨decl, -, rfl⟩ := member
    exact buildFields_failsFirst rfl rfl decl _ []

end Schema

/-! ## Every problem is a schema error -/

namespace Manifest

variable (m : Manifest)

theorem labelViolations_schema : ∀ (labels before : List String),
    ∀ f ∈ labelViolations labels before, f.kind = .schema
  | [], _ => by simp [labelViolations]
  | label :: rest, before => by
    intro f member
    rw [labelViolations, List.mem_append] at member
    rcases member with here | later
    · split at here
      · rw [List.mem_singleton.mp here]
        rfl
      · cases here
    · exact labelViolations_schema rest (label :: before) f later

theorem defaultViolation?_schema {path : String} : ∀ {ref : DefaultRef} {f : Failure},
    m.defaultViolation? path ref = some f → f.kind = .schema
  | .member e member, f, raised => by
    simp only [defaultViolation?] at raised
    split at raised
    · cases raised
      rfl
    · split at raised
      · cases raised
        rfl
      · cases raised
  | .factory name, f, raised => by
    simp only [defaultViolation?] at raised
    split at raised
    · cases raised
    · cases raised
      rfl

theorem choicesViolation?_schema {path : String} : ∀ {choices : Option ChoicesDecl} {f : Failure},
    m.choicesViolation? path choices = some f → f.kind = .schema
  | some (.ofEnum e _), f, raised => by
    simp only [choicesViolation?] at raised
    split at raised
    · cases raised
    · cases raised
      rfl
  | some (.pairs _), _, raised | none, _, raised => by cases raised

theorem targetViolations_schema (app path : String) (decl : FieldDecl) :
    ∀ f ∈ m.targetViolations app path decl, f.kind = .schema := by
  intro f member
  unfold targetViolations at member
  split at member
  · rw [List.mem_singleton.mp member]
    rfl
  · rw [List.mem_append] at member
    rcases member with unknownTarget | unknownThrough
    · split at unknownTarget
      · cases unknownTarget
      · rw [List.mem_singleton.mp unknownTarget]
        rfl
    · split at unknownThrough
      · split at unknownThrough
        · cases unknownThrough
        · rw [List.mem_singleton.mp unknownThrough]
          rfl
      · cases unknownThrough

theorem fieldViolations_schema (app path : String) (decl : FieldDecl) :
    ∀ f ∈ m.fieldViolations app path decl, f.kind = .schema := by
  intro f member
  simp only [fieldViolations, List.mem_append, Option.mem_toList, Option.bind_eq_some_iff] at member
  rcases member with (⟨ref, -, raised⟩ | raised) | raised
  · exact m.defaultViolation?_schema raised
  · exact m.choicesViolation?_schema raised
  · split at raised
    · exact m.targetViolations_schema app path decl f raised
    · cases raised

theorem fieldsViolations_schema (label app : String) : ∀ (before : List String) (decls : List FieldDecl),
    ∀ f ∈ m.fieldsViolations label app before decls, f.kind = .schema
  | _, [] => by simp [fieldsViolations]
  | before, decl :: rest => by
    intro f member
    rw [fieldsViolations, List.mem_append, List.mem_append] at member
    rcases member with (repeated | own) | later
    · split at repeated
      · rw [List.mem_singleton.mp repeated]
        rfl
      · cases repeated
    · exact m.fieldViolations_schema app _ decl f own
    · exact fieldsViolations_schema label app (decl.name :: before) rest f later

theorem violations_schema : ∀ f ∈ m.violations, f.kind = .schema := by
  intro f member
  rw [violations, List.mem_append, List.mem_flatMap] at member
  rcases member with repeated | ⟨decl, -, own⟩
  · exact labelViolations_schema _ [] f repeated
  · exact m.fieldsViolations_schema decl.label decl.app [] _ f own

end Manifest

/-- Building a schema fails exactly when the manifest has a problem, with the first
problem in scan order, and that problem is a schema error. -/
theorem build_fails_at_first_violation (m : Manifest) :
    (∀ f, Schema.build m = .error f ↔ m.violations.head? = some f) ∧
    ((∃ schema, Schema.build m = .ok schema) ↔ m.violations = []) ∧
    ∀ f ∈ m.violations, f.kind = .schema :=
  ⟨Schema.build_failsFirst m, (Schema.build_failsFirst m).ok_iff, m.violations_schema⟩

end ModelTables
