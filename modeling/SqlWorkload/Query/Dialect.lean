import SqlWorkload.Query.Basic
import SqlWorkload.Number.Fixed
import SqlWorkload.Text.Quoted
/-!
# Dialects

The SQL text of a query in a dialect. Dialects differ in the quote mark of identifiers, in whether
a table is qualified by its namespace, and in how hints are written: standard SQL has none,
PostgreSQL takes them in a comment in front of the statement, and MySQL takes index hints after
each table and join methods in a comment after the first keyword.
-/

namespace SqlWorkload

open Text

inductive Dialect where
  | ansi
  | postgres
  | mysql
deriving DecidableEq, Repr

namespace Dialect

/-! ## Parts of a statement -/

/-- The quote mark of identifiers. -/
def mark : Dialect → Char
  | mysql => '\x60'
  | ansi | postgres => '"'

def ident (d : Dialect) (name : String) : String := quote d.mark name

def column (d : Dialect) (c : ColumnRef) : String := d.ident c.table ++ "." ++ d.ident c.column

def literal : Literal → String
  | .integer n => String.ofList (intText n)
  | .decimal p => p.fixedText
  | .text s => quote '\'' s
  | .boolean true => "TRUE"
  | .boolean false => "FALSE"
  | .date d => "DATE '" ++ String.ofList d.text ++ "'"
  | .timestamp m =>
    "TIMESTAMP '" ++ String.ofList m.date.text ++ " " ++ String.ofList m.time.clockText ++ "'"
  | .time t => "TIME '" ++ String.ofList t.clockText ++ "'"

def aggregate (d : Dialect) (a : Aggregate) : String :=
  a.function.sql ++ "(" ++ d.column a.column ++ ")"

def predicate (d : Dialect) (p : Predicate) : String :=
  d.column p.column ++ " " ++ p.op.sql ++ " " ++ literal p.value

/-! ## Hints -/

/-- What the hint comment says for a hint, if it says anything. MySQL has no merge join: all it can
be told is to do without a hash join. -/
def hintItem (d : Dialect) (h : Hint) : Option String :=
  match d, h with
  | ansi, _ => none
  | postgres, .useIndex table index =>
    some ("IndexScan(" ++ d.ident table ++ " " ++ d.ident index ++ ")")
  | postgres, .noIndex table => some ("SeqScan(" ++ d.ident table ++ ")")
  | postgres, .joinMethod left right strategy =>
    let method := match strategy with
      | .hash => "HashJoin"
      | .nestedLoop => "NestLoop"
      | .merge => "MergeJoin"
    some (method ++ "(" ++ d.ident left ++ " " ++ d.ident right ++ ")")
  | mysql, .joinMethod left right strategy =>
    let method := match strategy with
      | .hash => "HASH_JOIN"
      | .nestedLoop | .merge => "NO_HASH_JOIN"
    some (method ++ "(" ++ d.ident left ++ ", " ++ d.ident right ++ ")")
  | mysql, _ => none

/-- The comment around the items of the hints; without an item there is none. -/
def hintComment (d : Dialect) (hints : List Hint) : Option String :=
  match hints.filterMap d.hintItem with
  | [] => none
  | items => some ("/*+ " ++ joinWith " " items ++ " */")

/-- An index hint after a table. An empty list of indexes says that none may be used. -/
def indexClause (d : Dialect) : Hint → String
  | .useIndex _ index => " USE INDEX (" ++ d.ident index ++ ")"
  | .noIndex _ => " USE INDEX ()"
  | .joinMethod _ _ _ => ""

/-! ## Statements -/

/-- A table in its namespace, unless that has no name. In MySQL the namespace is the database of
the connection, and names stand without it. -/
def qualified (d : Dialect) (space table : String) : String :=
  if d = mysql ∨ space = "" then d.ident table else d.ident space ++ "." ++ d.ident table

/-- A table of the query where it is first named. -/
def tableRef (d : Dialect) (q : Query) (table : String) : String :=
  d.qualified q.space table ++
    if d = mysql then String.join ((q.hintsFor table).map d.indexClause) else ""

def joinClause (d : Dialect) (q : Query) (j : Join) : String :=
  " JOIN " ++ d.tableRef q j.table ++ " ON " ++ d.column j.edge.fromRef ++ " = " ++
    d.column j.edge.toRef

def selectList (d : Dialect) (q : Query) : String :=
  if q.selectsAll then "*"
  else joinWith ", " (q.projection.map d.column ++ q.aggregates.map d.aggregate)

/-- The first keyword with the hint comment. -/
def select (d : Dialect) (q : Query) : String :=
  match d, d.hintComment q.hints with
  | postgres, some comment => comment ++ " SELECT "
  | mysql, some comment => "SELECT " ++ comment ++ " "
  | _, _ => "SELECT "

def whereClause (d : Dialect) : List Predicate → String
  | [] => ""
  | predicates => " WHERE " ++ joinWith " AND " (predicates.map d.predicate)

def groupClause (d : Dialect) : List ColumnRef → String
  | [] => ""
  | columns => " GROUP BY " ++ joinWith ", " (columns.map d.column)

/-- The text of a query. -/
def render (d : Dialect) (q : Query) : String :=
  d.select q ++ d.selectList q ++ " FROM " ++ d.tableRef q q.source ++
    String.join (q.joins.map (d.joinClause q)) ++ d.whereClause q.predicates ++
    d.groupClause q.groupBy ++ ";"

/-! ## Lemmas -/

@[simp] theorem toList_ident (d : Dialect) (name : String) :
    (d.ident name).toList = d.mark :: (double d.mark name.toList ++ [d.mark]) := by
  simp [ident]

@[simp] theorem hintComment_ansi (hints : List Hint) : ansi.hintComment hints = none := by
  have : hints.filterMap ansi.hintItem = [] := by
    rw [List.filterMap_eq_nil_iff]; exact fun _ _ => rfl
  simp [hintComment, this]

end Dialect

end SqlWorkload
