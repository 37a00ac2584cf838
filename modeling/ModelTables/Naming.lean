/-! # Class names

Every generated table gets a class name `<ObjectName><suffix>`.  When an object name
occurs more than once among the planned models, each of those models is named
`<PascalApp><ObjectName>` instead, and when that is already taken (by an unshared
object name or an earlier prefixed name), the least `n ≥ 2` that frees
`<PascalApp><ObjectName><n>` is appended.

`pascalCase` splits a text at every run of characters other than ASCII letters and
digits, upper-cases the first character of each part and joins the parts.
-/

namespace ModelTables.Naming

/-- Whether a character is an ASCII letter or digit. -/
def isWordChar (c : Char) : Bool := c.isAlpha || c.isDigit

/-- The parts of a text between runs of other characters. -/
def wordParts (cs : List Char) : List (List Char) :=
  (cs.splitBy fun a b => isWordChar a == isWordChar b).filter fun part =>
    match part with
    | c :: _ => isWordChar c
    | [] => false

/-- A part with its first character upper-cased. -/
def capitalize : List Char → List Char
  | c :: rest => c.toUpper :: rest
  | [] => []

/-- The Pascal-case form of a text. -/
def pascalCase (s : String) : String :=
  String.ofList ((wordParts s.toList).flatMap capitalize)

/-- How many times a name occurs. -/
def occurrences (names : List String) (name : String) : Nat :=
  names.count name

/-- The least free name `prefixed`, `prefixed2`, `prefixed3`, …, searched for at most
`fuel` steps. -/
def freeName (taken : List String) (prefixed : String) : Nat → Nat → String
  | 0, n => prefixed ++ toString n
  | fuel + 1, n =>
    let candidate := if n == 1 then prefixed else prefixed ++ toString n
    if taken.contains candidate then freeName taken prefixed fuel (if n == 1 then 2 else n + 1)
    else candidate

/-- Name one model `(app, objectName)`, given the names taken so far and the class
names given so far: an unshared object name with the suffix, or the first free
prefixed name, which is then taken too. -/
def nameModel (shared : String → Bool) (suffix : String) :
    List String × List String → String × String → List String × List String
  | (taken, names), (app, objectName) =>
    if shared objectName then
      let base := freeName taken (pascalCase app ++ objectName) (taken.length + 1) 1
      (base :: taken, names ++ [base ++ suffix])
    else (taken, names ++ [objectName ++ suffix])

/-- The class names of models given as `(app, objectName)`, in order.  The unshared
object names count as taken from the start. -/
def assignClassNames (models : List (String × String)) (suffix : String) : List String :=
  let objectNames := models.map (·.2)
  let shared (name : String) : Bool := occurrences objectNames name > 1
  let unshared := objectNames.filter fun name => !shared name
  (models.foldl (nameModel shared suffix) (unshared, [])).2

end ModelTables.Naming
