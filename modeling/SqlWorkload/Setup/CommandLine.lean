import SqlWorkload.Setup.EnvironmentFile
import SqlWorkload.Setup.Settings
import SqlWorkload.Text.Escaped
/-!
# The command line

The program up to the point where it would open a connection: it reads its settings, loads the
parameters and looks at the connection, and reports the first thing that is wrong.
-/

namespace SqlWorkload.CommandLine

/-- What the program cannot go on after. -/
inductive Failure where
  | settings (e : DatabaseError)
  | parameters (e : LoadError)
  | analysis (e : AnalysisError)
deriving DecidableEq, Repr

def reportDriver : DriverError → String
  | .io text => "Io(" ++ Text.escaped text ++ ")"
  | .tls text => "Tls(" ++ Text.escaped text ++ ")"
  | .poolTimedOut => "PoolTimedOut"
  | .poolClosed => "PoolClosed"
  | .workerCrashed => "WorkerCrashed"
  | .rowNotFound => "RowNotFound"
  | .protocol text => "Protocol(" ++ Text.escaped text ++ ")"
  | .configuration text => "Configuration(" ++ Text.escaped text ++ ")"
  | .decode text => "Decode(" ++ Text.escaped text ++ ")"
  | .columnNotFound name => "ColumnNotFound(" ++ Text.escaped name ++ ")"
  | .other _ report => report

def reportDatabase : DatabaseError → String
  | .driver e => "Driver(" ++ reportDriver e ++ ")"
  | .config text => "Config(" ++ Text.escaped text ++ ")"
  | .connection text => "Connection(" ++ Text.escaped text ++ ")"
  | .io text => "Io(" ++ Text.escaped text ++ ")"
  | .csv text => "Csv(" ++ Text.escaped text ++ ")"
  | .general text => "General(" ++ Text.escaped text ++ ")"

def reportAnalysis : AnalysisError → String
  | .connectionFailed text => "ConnectionFailed(" ++ Text.escaped text ++ ")"
  | .metadataUnavailable text => "MetadataUnavailable(" ++ Text.escaped text ++ ")"
  | .unsupportedEngine name => "UnsupportedEngine(" ++ Text.escaped name ++ ")"

/-- The failure as the program reports it. -/
def Failure.report : Failure → String
  | settings e => reportDatabase e
  | parameters (.unreadable e) => "Io(" ++ e.detail ++ ")"
  | parameters e => "Config(" ++ Text.escaped e.text ++ ")"
  | analysis e => reportAnalysis e

/-- The settings and parameters of a run that can open its connection. -/
def prepare (lookup : String → Option String)
    (readText : String → Except ReadFailure String) : Except Failure (Settings × Parameters) := do
  let settings ← (Settings.ofLookup lookup).mapError .settings
  let parameters ← (settings.loadParameters readText).mapError .parameters
  match settings.connection.refusal with
  | some e => throw (.analysis e)
  | none => return (settings, parameters)

/-- The line that the program ends with. -/
def Failure.line (e : Failure) : String := "Error: " ++ e.report ++ "\n"

end SqlWorkload.CommandLine
