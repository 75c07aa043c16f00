import SqlWorkload.Stored.Parameters
import SqlWorkload.Stored.Schema
import SqlWorkload.Request.Basic
/-!
# Stored requests

The document form of requests. The fields are read in the order of the text, and the first that
cannot be read decides what is said: faulty parameters are told as such, if everything before them
is in order.
-/

namespace SqlWorkload

open Json

namespace Phase

def ofJson? (j : Json) : Option Phase := do
  let r ← Record.sound? ["status", "started_at", "finished_at"] j
  return {
    status := ← r.field? "status" fun j => j.tag?.bind RunStatus.ofName?
    startedAt := ← optional? Calendar.Moment.ofJson? (r.get? "started_at")
    finishedAt := ← optional? Calendar.Moment.ofJson? (r.get? "finished_at") }

def toJson (p : Phase) : Json :=
  .record [
    ("status", .ofString p.status.name),
    ("started_at", .ofOption (fun m => .ofString m.stored) p.startedAt),
    ("finished_at", .ofOption (fun m => .ofString m.stored) p.finishedAt)]

end Phase

namespace Request

def fieldNames : List String :=
  ["id", "name", "parameters", "schema_source", "generated_count", "executed_count", "generation",
    "execution", "created_at", "error_message", "result_file_path", "result_csv_path"]

/-- The fields of a request that have been read so far. -/
structure Draft where
  id : Option Uuid := none
  name : Option String := none
  parameters : Option Parameters := none
  schemaSource : Option String := none
  generatedCount : Option Nat := none
  executedCount : Option Nat := none
  generation : Option Phase := none
  execution : Option Phase := none
  createdAt : Option Calendar.Moment := none
  errorMessage : Option String := none
  resultFilePath : Option String := none
  resultCsvPath : Option String := none

def Draft.set (d : Draft) (name : String) (j : Json) : Except ReadError Draft :=
  match name with
  | "id" => orMalformed do return { d with id := some (← Uuid.ofText? (← j.string?)) }
  | "name" => orMalformed do return { d with name := some (← j.string?) }
  | "parameters" => do return { d with parameters := some (← Parameters.ofJson j) }
  | "schema_source" => orMalformed do return { d with schemaSource := some (← j.string?) }
  | "generated_count" => orMalformed do
    return { d with generatedCount := some (← j.nat? UInt64.size) }
  | "executed_count" => orMalformed do
    return { d with executedCount := some (← j.nat? UInt64.size) }
  | "generation" => orMalformed do return { d with generation := some (← Phase.ofJson? j) }
  | "execution" => orMalformed do return { d with execution := some (← Phase.ofJson? j) }
  | "created_at" => orMalformed do
    return { d with createdAt := some (← Calendar.Moment.ofJson? j) }
  | "error_message" => orMalformed do
    return { d with errorMessage := ← optional? string? (some j) }
  | "result_file_path" => orMalformed do
    return { d with resultFilePath := ← optional? string? (some j) }
  | "result_csv_path" => orMalformed do
    return { d with resultCsvPath := ← optional? string? (some j) }
  | _ => .error .malformed

/-- The request of a draft that has all its fields, the optional ones apart. -/
def Draft.request? (d : Draft) : Option Request := do
  return {
    id := ← d.id
    name := ← d.name
    parameters := ← d.parameters
    schemaSource := ← d.schemaSource
    generatedCount := ← d.generatedCount
    executedCount := ← d.executedCount
    generation := ← d.generation
    execution := ← d.execution
    createdAt := ← d.createdAt
    errorMessage := d.errorMessage
    resultFilePath := d.resultFilePath
    resultCsvPath := d.resultCsvPath }

def ofJson (j : Json) : Except ReadError Request := do
  let r ← orMalformed (Record.of? fieldNames 0 j)
  let d ← r.fields.foldlM (fun (d : Draft) (name, j) => d.set name j) {}
  if r.isSound then orMalformed d.request? else throw .malformed

/-- A request from a text with nothing else in it. -/
def ofText (s : String) : Except ReadError Request := do
  let (j, alone) := Json.read s
  let r ← ofJson j
  if alone then return r else throw .malformed

def toJson (r : Request) : Json :=
  .record [
    ("id", .ofString r.id.text),
    ("name", .ofString r.name),
    ("parameters", r.parameters.toJson),
    ("schema_source", .ofString r.schemaSource),
    ("generated_count", .ofNat r.generatedCount),
    ("executed_count", .ofNat r.executedCount),
    ("generation", r.generation.toJson),
    ("execution", r.execution.toJson),
    ("created_at", .ofString r.createdAt.stored),
    ("error_message", .ofOption .ofString r.errorMessage),
    ("result_file_path", .ofOption .ofString r.resultFilePath),
    ("result_csv_path", .ofOption .ofString r.resultCsvPath)]

/-- The request as it comes back from where it was stored. -/
def reload (r : Request) : Except ReadError Request := ofJson r.toJson

end Request

end SqlWorkload
