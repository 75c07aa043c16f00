import SqlWorkload.Setup.Connection
import SqlWorkload.Stored.Parameters
import SqlWorkload.Files.FileTree
/-!
# Settings

What the program is told by its environment: the connection, the name of the workload, the file
with its parameters and the directory for its results. A blank value counts as none.
-/

namespace SqlWorkload

structure Settings where
  connection : Connection
  workloadName : String
  /-- The document with the parameters; without one they have their default values. -/
  paramsPath : Option String
  outputDir : String
deriving DecidableEq, Repr

/-- Why the parameters cannot be loaded. -/
inductive LoadError where
  | unreadable (e : ReadFailure)
  | rejected (path : String) (e : ReadError)
deriving DecidableEq, Repr

namespace LoadError

/-- The failure in words, after the path of the document. -/
def text : LoadError → String
  | unreadable e => e.detail
  | rejected path .malformed => path ++ ": not a document of parameters"
  | rejected path (.invalidParameters e) =>
    path ++ ": " ++ (GenerationError.invalidParameters e).message

end LoadError

namespace Settings

def defaultName : String := "workload"

def defaultDir : String := "."

def ofLookup (lookup : String → Option String) : Except DatabaseError Settings := do
  let get (key : String) := (lookup key).filter fun value => !Text.isBlankText value
  let url ←
    match get "DATABASE_URL" with
    | some url => pure url
    | none => throw (.config "DATABASE_URL must be set")
  let engine ←
    match get "DB_TYPE" with
    | some name => Engine.ofName name
    | none => pure .postgres
  return {
    connection := { engine, url, space := (get "DB_NAMESPACE").getD defaultSpace }
    workloadName := (get "WORKLOAD_NAME").getD defaultName
    paramsPath := get "WORKLOAD_PARAMS"
    outputDir := (get "WORKLOAD_OUTPUT_DIR").getD defaultDir }

/-- The parameters of the workload, `readText` giving the text of a file. -/
def loadParameters (s : Settings) (readText : String → Except ReadFailure String) :
    Except LoadError Parameters :=
  match s.paramsPath with
  | none => .ok {}
  | some path =>
    match readText path with
    | .error e => .error (.unreadable e)
    | .ok text => (Parameters.ofText text).mapError (.rejected path)

end Settings

end SqlWorkload
