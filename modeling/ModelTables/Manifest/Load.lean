import ModelTables.Manifest.Read
import ModelTables.Value.Yaml
import ModelTables.WorkDir

/-! # Loading manifest files

A manifest file is read by its extension, compared without regard to case:
`.json` files as JSON, `.yaml` and `.yml` files as YAML.  Any other extension, a
missing file and a text that does not parse each fail with the file's path; the
document read is then checked like any manifest.
-/

namespace ModelTables

namespace Manifest

/-- The extensions of manifest files and whether each is JSON. -/
def fileKinds : List (String × Bool) := [(".json", true), (".yaml", false), (".yml", false)]

/-- Load the manifest at a path of a work directory. -/
def load (dir : WorkDir) (path : String) : Except Failure Manifest := do
  let extension := String.ofList ((extensionOf path).toList.map Char.toLower)
  let some isJson := (fileKinds.find? (·.1 == extension)).map (·.2)
    | throw (.unsupportedManifestFormat path)
  let some content := dir.read? path
    | throw (.unreadableManifest path)
  let parsed := if isJson then Value.parseJson? content else Value.parseYaml? content
  match parsed with
  | .ok data => read data
  | .error reason => throw (.unparsableManifest path reason)

end Manifest

end ModelTables
