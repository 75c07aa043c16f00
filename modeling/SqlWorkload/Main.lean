import SqlWorkload.Setup.CommandLine
/-!
# The program

Reads the environment, the file `.env` and the parameters, and reports what is wrong with them. No
reader of a live catalog is linked to the program, so that a connection that could be opened is the
last thing it reports.
-/

namespace SqlWorkload.CommandLine

def settingKeys : List String :=
  ["DATABASE_URL", "DB_TYPE", "DB_NAMESPACE", "WORKLOAD_NAME", "WORKLOAD_PARAMS",
    "WORKLOAD_OUTPUT_DIR"]

def readBytes (path : String) : IO (Except ReadFailure ByteArray) := do
  try
    return .ok (← IO.FS.readBinFile path)
  catch e =>
    match e with
    | .inappropriateType _ 20 _ => return .error .notDirectory
    | .inappropriateType .. => return .error .isDirectory
    | .invalidArgument _ 36 _ => return .error .nameTooLong
    | _ => return .error .notFound

/-- The keys of these names that are set. -/
def environment (names : List String) : IO (List (String × String)) :=
  names.filterMapM fun name => do return (← IO.getEnv name).map fun value => (name, value)

/-- What the program ends with. -/
def outcome : IO Failure := do
  let file := match ← readBytes ".env" with
    | .ok bytes => bytes
    | .error _ => .empty
  let names := (EnvironmentFile.lines file).flatMap EnvironmentFile.references
  let set ← environment (settingKeys ++ names)
  let lookup := EnvironmentFile.load (set.lookup ·) file
  let path := match Settings.ofLookup lookup with
    | .ok settings => settings.paramsPath.getD ""
    | .error _ => ""
  let document := (← readBytes path).bind fileText
  match prepare lookup fun _ => document with
  | .error e => return e
  | .ok (settings, _) =>
    return .analysis (.connectionFailed
      ("no catalog reader for " ++ settings.connection.engine.name))

end SqlWorkload.CommandLine

def main : IO UInt32 := do
  let failure ← SqlWorkload.CommandLine.outcome
  (← IO.getStderr).putStr failure.line
  return 1
