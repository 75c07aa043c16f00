import SqlWorkload.Json.Record
import SqlWorkload.Json.Reader
import SqlWorkload.Catalog.Schema
import SqlWorkload.Calendar.Reader
/-!
# Stored schemas

The document form of schemas. The tables are an object with any keys, of which a repeated one keeps
its last value.
-/

namespace SqlWorkload

open Json

def Calendar.Moment.ofJson? (j : Json) : Option Calendar.Moment :=
  j.string?.bind fun s => Calendar.readInstant s.toList

/-- A moment as stored, in Greenwich time. -/
def Calendar.Moment.stored (m : Calendar.Moment) : String := String.ofList (m.text ++ ['Z'])

def ColumnRef.ofJson? (j : Json) : Option ColumnRef := do
  let r ← Record.sound? ["table", "column"] j
  return { table := ← r.field? "table" string?, column := ← r.field? "column" string? }

def ColumnIndex.ofJson? (j : Json) : Option ColumnIndex := do
  let r ← Record.sound? ["name", "is_unique"] j
  return { name := ← r.field? "name" string?, isUnique := ← r.field? "is_unique" bool? }

def ForeignKeyEdge.ofJson? (j : Json) : Option ForeignKeyEdge := do
  let r ← Record.sound? ["from_table", "from_column", "to_table", "to_column"] j
  return {
    fromTable := ← r.field? "from_table" string?
    fromColumn := ← r.field? "from_column" string?
    toTable := ← r.field? "to_table" string?
    toColumn := ← r.field? "to_column" string? }

def Column.ofJson? (j : Json) : Option Column := do
  let r ← Record.sound? ["name", "data_type", "is_nullable", "max_length", "ordinal_position",
    "is_auto_increment", "is_primary_key", "has_index", "is_unique_index", "indexes",
    "references"] j
  return {
    name := ← r.field? "name" string?
    dataType := ← r.field? "data_type" string?
    isNullable := ← r.field? "is_nullable" bool?
    maxLength := ← optional? int32? (r.get? "max_length")
    ordinal := ← r.field? "ordinal_position" (·.nat? UInt32.size)
    isAutoIncrement := ← r.field? "is_auto_increment" bool?
    isPrimaryKey := ← r.field? "is_primary_key" bool?
    hasIndex := ← r.field? "has_index" bool?
    isUniqueIndex := ← r.field? "is_unique_index" bool?
    indexes := ← r.field? "indexes" (listOf? ColumnIndex.ofJson?)
    references := ← optional? ColumnRef.ofJson? (r.get? "references") }

def Table.ofJson? (j : Json) : Option Table := do
  let r ← Record.sound? ["name", "namespace", "columns", "row_estimate"] j
  return {
    name := ← r.field? "name" string?
    space := ← r.field? "namespace" string?
    columns := ← r.field? "columns" (listOf? Column.ofJson?)
    rowEstimate := ← optional? int64? (r.get? "row_estimate") }

/-- A map from names; the last value of a key counts. -/
def mapOf? {α : Type} (f : Json → Option α) : Json → Option (NameMap α)
  | .object members => do
    let entries ← members.mapM fun (name, j) => do return (← name, ← f j)
    return .ofList entries
  | _ => none

def Schema.ofJson? (j : Json) : Option Schema := do
  let r ← Record.sound? ["source", "tables", "analyzed_at", "is_analyzed"] j
  return {
    source := ← r.field? "source" string?
    tables := ← r.field? "tables" (mapOf? Table.ofJson?)
    analyzedAt := ← optional? Calendar.Moment.ofJson? (r.get? "analyzed_at")
    isAnalyzed := ← r.field? "is_analyzed" bool? }

/-- A schema from a text with nothing else in it. -/
def Schema.ofText? (s : String) : Option Schema :=
  match Json.read s with
  | (j, true) => ofJson? j
  | (_, false) => none

end SqlWorkload
