import ModelTables.Shape.Basic
import ModelTables.Decimal.Text

/-! # Checking a value against a shape

`Shape.issues shape v` lists every way `v` misses `shape`, each with the path of
the offending part, in the order the checks run:

1. the kinds, first, when the shape lists several kinds or only kinds without
   constraints of their own (`integer`, `null`, `boolean`, or a kind whose
   constraints the shape leaves empty);
2. the conditional;
3. the number constraint, then the text constraint, then the item counts
   (`maxItems` before `minItems`) and the items, then the member constraints
   (`required`, the other members in the value's order, the named members in the
   shape's order).  Each group runs only on a value of its kind.  When the shape
   asks for one kind that has constraints of its own, a value of another kind is
   reported where that kind's group stands, and its constraints are skipped.

A member whose value is `undefined` counts as missing.
-/

namespace ModelTables.Shape

/-- One way a value misses a shape: where, and what is wrong. -/
structure Issue where
  /-- Member names and item positions from the root to the offending part. -/
  path : List String
  message : String
  deriving Repr, Inhabited

/-- The groups of constraints, in the order they are checked. -/
inductive Group where
  | number
  | string
  | array
  | object
  deriving DecidableEq

/-- Whether the shape has a constraint of the group. -/
def hasGroup (shape : Shape) : Group → Bool
  | .number => shape.minimum.isSome
  | .string => shape.minLength.isSome
  | .array => shape.maxItems.isSome || shape.minItems.isSome || shape.items.isSome ||
      !shape.positional.isEmpty
  | .object => !shape.required.isEmpty || !shape.members.isEmpty || shape.others.isSome

/-- The group whose constraints apply to a kind, if any. -/
def Kind.group? : Kind → Option Group
  | .number => some .number
  | .string => some .string
  | .array => some .array
  | .object => some .object
  | _ => none

/-- The group in which a kind error is reported instead of up front: the shape asks
for a single kind with constraints of its own. -/
def deferredGroup? (shape : Shape) : Option Group :=
  match shape.kinds with
  | [k] => match k.group? with
    | some g => if hasGroup shape g then some g else none
    | none => none
  | _ => none

/-- The kind error of a value, if it fits none of the kinds. -/
def kindIssue? (shape : Shape) (path : List String) (v : Value) : Option Issue :=
  if shape.kinds.isEmpty || shape.kinds.any (·.admits v) then none
  else some ⟨path, "must be " ++ ",".intercalate (shape.kinds.map Kind.name)⟩

/-- Whether a value belongs to a group's kind. -/
def Group.holds : Group → Value → Bool
  | .number, v => Kind.number.admits v
  | .string, v => Kind.string.admits v
  | .array, v => Kind.array.admits v
  | .object, v => Kind.object.admits v

/-- The members of a value seen as an object. -/
def membersOf : Value → Fields
  | .object fields => fields
  | _ => []

/-- The issues of a value against a shape, with `fuel` bounding the nesting. -/
def issuesFuel : Nat → Shape → List String → Value → List Issue
  | 0, _, _, _ => []
  | fuel + 1, shape, path, v =>
    let deferred := deferredGroup? shape
    let upFront := if deferred.isNone then (kindIssue? shape path v).toList else []
    let conditional : List Issue :=
      match shape.condition with
      | none => []
      | some c =>
        let branch := if (issuesFuel fuel c path v).isEmpty then shape.whenFits else shape.otherwise
        match branch with
        | some b => issuesFuel fuel b path v
        | none => []
    let group (g : Group) (run : Unit → List Issue) : List Issue :=
      if !hasGroup shape g then []
      else if g.holds v then run ()
      else if deferred == some g then (kindIssue? shape path v).toList
      else []
    let numberIssues := group .number fun _ =>
      match shape.minimum, v with
      | some bound, .number x =>
        if x < bound || x.isNaN then [⟨path, "must be >= " ++ Decimal.numberText bound⟩] else []
      | _, _ => []
    let stringIssues := group .string fun _ =>
      match shape.minLength, v with
      | some n, .string s =>
        if s.length < n then [⟨path, "must NOT have fewer than " ++ toString n ++ " characters"⟩]
        else []
      | _, _ => []
    let arrayIssues := group .array fun _ =>
      match v with
      | .array values =>
        let count := values.length
        let tooMany := match shape.maxItems with
          | some n => if count > n then [⟨path, "must NOT have more than " ++ toString n ++ " items"⟩] else []
          | none => []
        let tooFew := match shape.minItems with
          | some n => if count < n then [⟨path, "must NOT have fewer than " ++ toString n ++ " items"⟩] else []
          | none => []
        let indexed := (List.range count).zip values
        let each := match shape.items with
          | some s => indexed.flatMap fun (i, item) => issuesFuel fuel s (path ++ [toString i]) item
          | none => []
        let byPosition := ((List.range shape.positional.length).zip shape.positional).flatMap
          fun (i, s) => match values[i]? with
            | some item => issuesFuel fuel s (path ++ [toString i]) item
            | none => []
        tooMany ++ tooFew ++ each ++ byPosition
      | _ => []
    let objectIssues := group .object fun _ =>
      let fields := membersOf v
      let missing := shape.required.filterMap fun name =>
        match Fields.get? fields name with
        | some .undefined => some ⟨path, "must have required property '" ++ name ++ "'"⟩
        | some _ => none
        | none => some ⟨path, "must have required property '" ++ name ++ "'"⟩
      let others := match shape.others with
        | some s =>
          fields.flatMap fun (key, item) =>
            if shape.members.any (·.1 == key) then [] else issuesFuel fuel s (path ++ [key]) item
        | none => []
      let named := shape.members.flatMap fun (name, s) =>
        match Fields.get? fields name with
        | some .undefined => []
        | some item => issuesFuel fuel s (path ++ [name]) item
        | none => []
      missing ++ others ++ named
    upFront ++ conditional ++ numberIssues ++ stringIssues ++ arrayIssues ++ objectIssues

/-- Every issue of a value against a shape, in check order. -/
def issues (shape : Shape) (v : Value) : List Issue :=
  issuesFuel shape.depth shape [] v

/-- Whether a value fits a shape. -/
def fits (shape : Shape) (v : Value) : Bool := (issues shape v).isEmpty

end ModelTables.Shape
