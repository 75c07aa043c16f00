import SqlWorkload.Stored.Schema
import SqlWorkload.Query.Basic
/-!
# Stored queries

The document form of queries. An alternative without content is its name, one with content an
object whose single member has that name.
-/

namespace SqlWorkload

open Json

def CompareOp.ofName? : String → Option CompareOp
  | "Eq" => some .eq
  | "Ne" => some .ne
  | "Lt" => some .lt
  | "Gt" => some .gt
  | "Le" => some .le
  | "Ge" => some .ge
  | "Like" => some .like
  | _ => none

def AggregateFunction.ofName? : String → Option AggregateFunction
  | "Count" => some .count
  | "Sum" => some .sum
  | "Avg" => some .avg
  | "Min" => some .min
  | "Max" => some .max
  | _ => none

def JoinStrategy.ofName? : String → Option JoinStrategy
  | "Hash" => some .hash
  | "NestedLoop" => some .nestedLoop
  | "Merge" => some .merge
  | _ => none

def Literal.ofJson? (j : Json) : Option Literal := do
  let (name, j) ← j.variant?
  match name with
  | "Integer" => return .integer (← j.int64?)
  | "Decimal" => return .decimal (← j.binary64?)
  | "Text" => return .text (← j.string?)
  | "Boolean" => return .boolean (← j.bool?)
  | "Date" => return .date (← Calendar.readDate (← j.string?).toList)
  | "Timestamp" => return .timestamp (← Calendar.readMoment (← j.string?).toList)
  | "Time" => return .time (← Calendar.readTime (← j.string?).toList)
  | _ => none

def Predicate.ofJson? (j : Json) : Option Predicate := do
  let r ← Record.sound? ["column", "op", "value"] j
  return {
    column := ← r.field? "column" ColumnRef.ofJson?
    op := ← r.field? "op" fun j => j.tag?.bind CompareOp.ofName?
    value := ← r.field? "value" Literal.ofJson? }

def Aggregate.ofJson? (j : Json) : Option Aggregate := do
  let r ← Record.sound? ["function", "column"] j
  return {
    function := ← r.field? "function" fun j => j.tag?.bind AggregateFunction.ofName?
    column := ← r.field? "column" ColumnRef.ofJson? }

def Join.ofJson? (j : Json) : Option Join := do
  let r ← Record.sound? ["table", "edge"] j
  return {
    table := ← r.field? "table" string?
    edge := ← r.field? "edge" ForeignKeyEdge.ofJson? }

/-- The content of a hint is an object, never a list. -/
def Hint.ofJson? (j : Json) : Option Hint := do
  let (name, j) ← j.variant?
  if j.items?.isSome then none
  else match name with
  | "UseIndex" =>
    let r ← Record.sound? ["table", "index"] j
    return .useIndex (← r.field? "table" string?) (← r.field? "index" string?)
  | "NoIndex" =>
    let r ← Record.sound? ["table"] j
    return .noIndex (← r.field? "table" string?)
  | "JoinMethod" =>
    let r ← Record.sound? ["left", "right", "strategy"] j
    return .joinMethod (← r.field? "left" string?) (← r.field? "right" string?)
      (← r.field? "strategy" fun j => j.tag?.bind JoinStrategy.ofName?)
  | _ => none

def Query.ofJson? (j : Json) : Option Query := do
  let r ← Record.sound? ["namespace", "from", "joins", "projection", "aggregates", "predicates",
    "group_by", "hints"] j
  return {
    space := ← r.field? "namespace" string?
    source := ← r.field? "from" string?
    joins := ← r.field? "joins" (listOf? Join.ofJson?)
    projection := ← r.field? "projection" (listOf? ColumnRef.ofJson?)
    aggregates := ← r.field? "aggregates" (listOf? Aggregate.ofJson?)
    predicates := ← r.field? "predicates" (listOf? Predicate.ofJson?)
    groupBy := ← r.field? "group_by" (listOf? ColumnRef.ofJson?)
    hints := ← r.field? "hints" (listOf? Hint.ofJson?) }

end SqlWorkload
