import SqlWorkload.Query.Operator
import SqlWorkload.Catalog.Schema
import SqlWorkload.Number.Binary64
/-!
# Queries

One SELECT statement apart from any dialect of SQL: a table with the tables joined to it, a
projection, aggregates, predicates, grouping columns and hints. With aggregates the grouping
columns are the projected ones; with neither projection nor aggregates every column is selected.
-/

namespace SqlWorkload

inductive Literal where
  | integer (n : Int)
  | decimal (p : Binary64)
  | text (s : String)
  | boolean (b : Bool)
  | date (d : Calendar.Date)
  | timestamp (m : Calendar.Moment)
  | time (t : Calendar.TimeOfDay)
deriving DecidableEq

structure Predicate where
  column : ColumnRef
  op : CompareOp
  value : Literal
deriving DecidableEq

structure Aggregate where
  function : AggregateFunction
  column : ColumnRef
deriving DecidableEq

/-- A table joined on the two columns of a foreign key. -/
structure Join where
  table : String
  edge : ForeignKeyEdge
deriving DecidableEq

inductive Hint where
  | useIndex (table index : String)
  | noIndex (table : String)
  | joinMethod (left right : String) (strategy : JoinStrategy)
deriving DecidableEq

structure Query where
  /-- The namespace of all tables of the query. -/
  space : String
  source : String
  joins : List Join
  projection : List ColumnRef
  aggregates : List Aggregate
  predicates : List Predicate
  groupBy : List ColumnRef
  hints : List Hint
deriving DecidableEq

namespace Hint

def isIndexHint : Hint → Bool
  | useIndex _ _ | noIndex _ => true
  | joinMethod _ _ _ => false

/-- Whether the hint is about the use of indexes of that table. -/
def isFor (table : String) : Hint → Bool
  | useIndex t _ | noIndex t => t == table
  | joinMethod _ _ _ => false

theorem isIndexHint_of_isFor {table : String} {h : Hint} (hf : h.isFor table = true) :
    h.isIndexHint = true := by
  cases h <;> simp_all [isFor, isIndexHint]

end Hint

namespace Query

/-- The table that the query starts from, then the joined ones in order. -/
def tables (q : Query) : List String := q.source :: q.joins.map (·.table)

def selectsAll (q : Query) : Bool := q.projection.isEmpty && q.aggregates.isEmpty

/-- The index hints for a table. -/
def hintsFor (q : Query) (table : String) : List Hint := q.hints.filter (·.isFor table)

end Query

end SqlWorkload
