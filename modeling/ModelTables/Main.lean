import ModelTables.Command.Cli

/-! # The program

Reads the files a `generate` run names, runs the command over them, writes the
modules into the output directory and prints the summary or the failure.
Everything between reading and writing is `prepareGenerate`.
-/

open ModelTables

/-- Read the named files into a work directory; a file that cannot be read is
left out, so the run reports it as missing. -/
def readInputs (paths : List String) : IO WorkDir :=
  paths.filterMapM fun (path : String) => do
    try
      let content ← IO.FS.readFile path
      pure (some (path, content))
    catch _ => pure none

/-- The full path of a directory given relative to `base` or from the root. -/
def resolveDir (base path : String) : String :=
  let full := if path.startsWith "/" then path else base ++ "/" ++ path
  "/" ++ "/".intercalate (WorkDir.segments full)

/-- Write every module into a directory, giving the written paths, or `none` when
the directory or a file cannot be written. -/
def writeModulesTo (out : String) (modules : List GeneratedModule) : IO (Option (List String)) := do
  try
    IO.FS.createDirAll out
    let mut files := []
    for m in modules do
      let path := (if out == "/" then "" else out) ++ "/" ++ m.fileName
      IO.FS.writeFile path m.content
      files := files ++ [path]
    pure (some files)
  catch _ => pure none

/-- Print the logged messages the level lets through. -/
def printLogs (level : LogLevel) (log : List LogEntry) : IO Unit :=
  log.forM fun e => if Cli.admits level e.level then IO.eprintln (Cli.logLine e) else pure ()

/-- Print a failure and give the failing exit code. -/
def fail (f : Failure) : IO UInt32 := do
  IO.eprintln (Cli.logLine { level := .error, message := "Generate command error" })
  IO.eprintln (Cli.failureValue f).prettyText
  pure 1

def main (args : List String) : IO UInt32 := do
  match Cli.parseArgs args with
  | .version =>
    IO.println Cli.version
    pure 0
  | .usage problem =>
    IO.eprintln problem
    pure 1
  | .generate options =>
    let dir ← readInputs (options.schema :: options.config.toList)
    let (outcome, log) := Run.exec (prepareGenerate dir options)
    match outcome with
    | .error f =>
      printLogs .warn log
      fail f
    | .ok (config, result) =>
      printLogs config.logLevel log
      let out := resolveDir (← IO.currentDir).toString options.outputDir
      match ← writeModulesTo out result.modules with
      | some files =>
        IO.println (Cli.summaryValue (result.summary files)).prettyText
        pure 0
      | none => fail (.writeFailed out)
