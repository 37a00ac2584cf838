import ModelTables.Text.Units
import ModelTables.Text.Quoted

/-! # Imports of generated modules

A generated module imports names from modules.  `renderImports` merges a list of
imports into one line per module, modules in ascending UTF-16 order, each with its
distinct names in ascending UTF-16 order; a name is marked `type` exactly when each
of its imports from that module is type-only:

`import { pgTable, type AnyPgColumn } from "drizzle-orm/pg-core";`
-/

namespace ModelTables.Code

/-- One named import. -/
structure Import where
  module : String
  name : String
  typeOnly : Bool := false
  deriving Inhabited, BEq, Repr

/-- The import of a table-building name. -/
def pgImport (name : String) : Import := { module := "drizzle-orm/pg-core", name }

/-- The names imported from each module, in first-import order, each with whether
all its imports were type-only. -/
def groupImports (imports : List Import) : List (String × List (String × Bool)) :=
  imports.foldl (fun acc spec =>
    let names := ((acc.find? (·.1 == spec.module)).map (·.2)).getD []
    let typeOnly := spec.typeOnly && ((names.find? (·.1 == spec.name)).map (·.2)).getD true
    let names' := if names.any (·.1 == spec.name) then
        names.map fun entry => if entry.1 == spec.name then (spec.name, typeOnly) else entry
      else names ++ [(spec.name, typeOnly)]
    if acc.any (·.1 == spec.module) then
      acc.map fun entry => if entry.1 == spec.module then (spec.module, names') else entry
    else acc ++ [(spec.module, names')]) []

/-- The groups of `groupImports` in the order the import lines give them: modules,
and the names of each, in ascending UTF-16 order. -/
def sortedImports (imports : List Import) : List (String × List (String × Bool)) :=
  ((groupImports imports).mergeSort fun a b => !Text.unitLt b.1 a.1).map fun (module, names) =>
    (module, names.mergeSort fun a b => !Text.unitLt b.1 a.1)

/-- The import line of one module's names. -/
def importLine (module : String) (names : List (String × Bool)) : String :=
  let specifiers := names.map fun (name, typeOnly) => if typeOnly then "type " ++ name else name
  "import \x7b " ++ ", ".intercalate specifiers ++ " \x7d from " ++ Text.quote module ++ ";"

/-- The import lines of a list of imports. -/
def renderImports (imports : List Import) : List String :=
  (sortedImports imports).map fun (module, names) => importLine module names

end ModelTables.Code
