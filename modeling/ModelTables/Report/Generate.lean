import ModelTables.Report.Basic
import ModelTables.Session

/-! # Reports of plans and generated text

The document forms of the first pass, of the second pass with the text renderer,
and of the generated modules.
-/

namespace ModelTables.Report

/-- The report of a left-out model. -/
def skipped (s : Skipped) : Value := .obj [("label", .string s.label), ("reason", .string s.reason)]

/-- The report of a plan: the planned models and the skipped ones. -/
def plan (p : Plan) : Value :=
  .obj [("models", .array (p.models.map fun m =>
      .obj [("label", .string m.label), ("className", .string m.className)])),
    ("skipped", .array (p.skipped.map skipped))]

/-- The report of an import. -/
def importSpec (i : Code.Import) : Value :=
  .obj [("module", .string i.module), ("name", .string i.name), ("typeOnly", .bool i.typeOnly)]

/-- The report of a rendered model. -/
def modelSource (m : Code.ModelSource) : Value :=
  .obj [("className", .string m.className), ("label", .string m.label),
    ("appLabel", .string m.appLabel), ("code", .string m.code),
    ("imports", .array (m.imports.map importSpec)), ("preamble", texts m.preamble),
    ("fieldNames", texts m.fieldNames)]

/-- The report of the class-name table. -/
def classNames (names : ClassNames) : Value :=
  .array (names.map fun (label, name) => .array [.string label, .string name])

/-- The report of a second pass. -/
def outcome {α : Type} (report : α → Value) (o : Outcome α) : Value :=
  .obj [("rounds", .number o.rounds.toFloat),
    ("rendered", .array (o.rendered.map fun r => report r.2)),
    ("failed", .array (o.failed.map skipped)), ("classNames", classNames o.classNames)]

/-- The report of generated modules. -/
def generatedSource (g : GeneratedSource) : Value :=
  .obj [("modules", .array (g.modules.map fun m =>
      .obj [("appLabel", .string m.appLabel), ("fileName", .string m.fileName),
        ("content", .string m.content), ("models", texts m.models)])),
    ("skipped", .array (g.skipped.map skipped)), ("failed", .array (g.failed.map skipped))]

end ModelTables.Report
