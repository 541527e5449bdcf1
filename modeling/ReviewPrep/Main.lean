import ReviewPrep.Command

/-!
# The review preparation tool

Reads the command line, the settings from the environment and the files the command names, and
prints what the command gives. A usage error ends with status 2, a failure to read settings or
files, or of the command, with status 1 and a log line on standard error.
-/

open ReviewPrep

/-- The bytes of a file, or the text of the failure to read it. -/
def readBytes (path : String) : IO (Except String (List UInt8)) := do
  try
    let data ← IO.FS.readBinFile path
    return .ok data.toList
  catch e =>
    return .error (toString e)

/-- Reads the files in order, stopping at the first failure. -/
def readAll : List String → IO (Except String (List (String × List UInt8)))
  | [] => return .ok []
  | p :: ps => do
    match ← readBytes p with
    | .error e => return .error e
    | .ok data =>
      match ← readAll ps with
      | .error e => return .error e
      | .ok rest => return .ok ((p, data) :: rest)

/-- Runs the tool. -/
def main (args : List String) : IO UInt32 := do
  match Command.read args with
  | .help text =>
    IO.println text
    return 0
  | .usageError text =>
    IO.eprintln text
    return 2
  | .run inv =>
    let env ← Settings.keys.mapM fun k => do
      let name := Settings.envName k
      return (name, ← IO.getEnv name)
    let lookup := fun (name : String) => ((env.find? (·.1 == name)).bind (·.2))
    match Settings.ofEnv lookup with
    | .error e =>
      IO.eprintln (Command.logLine (inv.logFormat.getD "console") "Invalid configuration"
        [("error", e.message)])
      return 1
    | .ok s =>
      let format := inv.logFormat.getD s.logFormat
      let fail := fun (message : String) => do
        IO.eprintln (Command.logLine format "Command failed"
          [("command", inv.task.name), ("error", message)])
        return (1 : UInt32)
      match ← readAll inv.task.inputs with
      | .error e => fail e
      | .ok files =>
        let contents := fun (p : String) => ((files.find? (·.1 == p)).map (·.2)).getD []
        match inv.task.output s contents with
        | .error e => fail e
        | .ok text =>
          IO.print text
          return 0
