import SqlWorkload.Parameters
/-!
# Failures

What can go wrong with a database, with the analysis of a catalog and with the generation of a
workload, and the message of each. A failure of the database becomes one of an analysis: a lost
connection ends it, anything else only leaves metadata out.

    the analysis failure of e is a lost connection ↔ e.losesConnection     (isConnectionFailed_iff)
-/

namespace SqlWorkload

/-! ## Algorithm -/

/-- Failures that a database driver reports. -/
inductive DriverError where
  | io (text : String)
  | tls (text : String)
  | poolTimedOut
  | poolClosed
  | workerCrashed
  | rowNotFound
  | protocol (text : String)
  | configuration (text : String)
  | decode (text : String)
  | columnNotFound (name : String)
  /-- Any other failure, by what it says and how it is reported in full. -/
  | other (text report : String)
deriving DecidableEq, Repr

inductive DatabaseError where
  | driver (e : DriverError)
  | config (text : String)
  | connection (text : String)
  | io (text : String)
  | csv (text : String)
  | general (text : String)
deriving DecidableEq, Repr

inductive AnalysisError where
  | connectionFailed (text : String)
  | metadataUnavailable (text : String)
  | unsupportedEngine (name : String)
deriving DecidableEq, Repr

inductive GenerationError where
  | emptySchema (source : String)
  | invalidParameters (e : ParameterError)
  | sink (text : String)
deriving DecidableEq, Repr

namespace DriverError

def message : DriverError → String
  | io text => "error communicating with database: " ++ text
  | tls text => "error occurred while attempting to establish a TLS connection: " ++ text
  | poolTimedOut => "pool timed out while waiting for an open connection"
  | poolClosed => "attempted to acquire a connection on a closed pool"
  | workerCrashed => "attempted to communicate with a crashed background worker"
  | rowNotFound => "no rows returned by a query that expected to return at least one row"
  | protocol text => "encountered unexpected or invalid data: " ++ text
  | configuration text => "error with configuration: " ++ text
  | decode text => "error occurred while decoding: " ++ text
  | columnNotFound name => "no column found for name: " ++ name
  | other text _ => text

def losesConnection : DriverError → Bool
  | io _ | tls _ | poolTimedOut | poolClosed | workerCrashed => true
  | _ => false

end DriverError

namespace DatabaseError

def message : DatabaseError → String
  | driver e => "Database error: " ++ e.message
  | config text => "Configuration error: " ++ text
  | connection text => "Connection error: " ++ text
  | io text => "I/O error: " ++ text
  | csv text => "CSV error: " ++ text
  | general text => "Error: " ++ text

/-- Whether the failure means that the connection is gone. -/
def losesConnection : DatabaseError → Bool
  | connection _ => true
  | driver e => e.losesConnection
  | _ => false

end DatabaseError

namespace AnalysisError

def message : AnalysisError → String
  | connectionFailed text => "Connection failed: " ++ text
  | metadataUnavailable text => "Metadata unavailable: " ++ text
  | unsupportedEngine name => "Unsupported engine: " ++ name

/-- A lost connection is told by the driver's own words, without what the database failure puts in
front of them. -/
def ofDatabase : DatabaseError → AnalysisError
  | .connection text => connectionFailed text
  | .driver e =>
    if e.losesConnection then connectionFailed e.message
    else metadataUnavailable (DatabaseError.driver e).message
  | e => metadataUnavailable e.message

def isConnectionFailed : AnalysisError → Bool
  | connectionFailed _ => true
  | _ => false

end AnalysisError

namespace GenerationError

def message : GenerationError → String
  | emptySchema source => "Schema '" ++ source ++ "' has no tables to generate queries from"
  | invalidParameters e => "Invalid parameters: " ++ e.message
  | sink text => "Query sink error: " ++ text

def ofDatabase (e : DatabaseError) : GenerationError := sink e.message

end GenerationError

/-! ## Lemmas -/

theorem AnalysisError.isConnectionFailed_iff (e : DatabaseError) :
    (AnalysisError.ofDatabase e).isConnectionFailed = e.losesConnection := by
  cases e with
  | driver e =>
    simp only [ofDatabase, DatabaseError.losesConnection]
    split <;> simp_all [isConnectionFailed]
  | _ => rfl

end SqlWorkload
