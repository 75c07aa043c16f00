import SqlWorkload.Files.BufferedFile
import SqlWorkload.Request.Run
import SqlWorkload.Text.Csv
/-!
# Workload files

A sink that writes a workload to two files: the statements, one after the other with a line end
after each, and a manifest in comma-separated values that describes each of them.

    the statements written are the texts of the queries in order          (sql_accept)
-/

namespace SqlWorkload

/-! ## Algorithm -/

structure WorkloadFiles where
  sqlPath : String
  csvPath : String
  sql : BufferedFile := {}
  manifest : BufferedFile := {}
deriving DecidableEq, Repr

namespace WorkloadFiles

def manifestHeader : List String :=
  ["index", "tables", "joins", "predicates", "aggregates", "hints", "sql"]

def count (n : Nat) : String := String.ofList (Text.intText n)

/-- What the manifest says of a query: its number, its tables with a blank between each two, how
many joins, predicates, aggregates and hints it has, and its text. -/
def manifestRecord (q : GeneratedQuery) : List String :=
  [count q.index, Text.joinWith " " q.query.tables, count q.query.joins.length,
    count q.query.predicates.length, count q.query.aggregates.length, count q.query.hints.length,
    q.sql]

def writeRecord (f : BufferedFile) (fields : List String) : BufferedFile :=
  f.writePieces (Text.Csv.record fields) (Text.Csv.recordPieces fields)

/-- The manifest with a query more; the header comes before the first. -/
def describe (manifest : BufferedFile) (q : GeneratedQuery) : BufferedFile :=
  writeRecord (if manifest.written = "" then writeRecord manifest manifestHeader else manifest)
    (manifestRecord q)

def accept (f : WorkloadFiles) (q : GeneratedQuery) : WorkloadFiles :=
  { f with sql := (f.sql.write q.sql).write "\n", manifest := describe f.manifest q }

def flush (f : WorkloadFiles) : WorkloadFiles :=
  { f with sql := f.sql.flush, manifest := f.manifest.flush }

def sink : Sink WorkloadFiles :=
  { accept := fun q f => (.ok (), f.accept q)
    finish := fun f => (.ok (), f.flush)
    isCancelled := fun _ => false }

/-- The request with the paths of the files as those of its result. -/
def attach (f : WorkloadFiles) (r : Request) : Request :=
  { r with resultFilePath := some f.sqlPath, resultCsvPath := some f.csvPath }

/-! ## Lemmas -/

@[simp] theorem sql_accept (f : WorkloadFiles) (q : GeneratedQuery) :
    (f.accept q).sql.written = f.sql.written ++ q.sql ++ "\n" := rfl

end WorkloadFiles

end SqlWorkload
