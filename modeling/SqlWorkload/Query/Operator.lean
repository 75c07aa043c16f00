import SqlWorkload.Catalog.TypeFamily
/-!
# Operators and aggregate functions

The comparison operators and aggregate functions of a query, and which of them are valid for a
column of a type family.

    the operators of a family are none iff it is not comparable      (operators_eq_nil_iff)
    every family has an aggregate function                            (aggregates_ne_nil)
-/

namespace SqlWorkload

/-! ## Algorithm -/

inductive CompareOp where
  | eq
  | ne
  | lt
  | gt
  | le
  | ge
  | like
deriving DecidableEq, Repr

inductive AggregateFunction where
  | count
  | sum
  | avg
  | min
  | max
deriving DecidableEq, Repr

inductive JoinStrategy where
  | hash
  | nestedLoop
  | merge
deriving DecidableEq, Repr

def CompareOp.sql : CompareOp → String
  | eq => "="
  | ne => "<>"
  | lt => "<"
  | gt => ">"
  | le => "<="
  | ge => ">="
  | like => "LIKE"

def AggregateFunction.sql : AggregateFunction → String
  | count => "COUNT"
  | sum => "SUM"
  | avg => "AVG"
  | min => "MIN"
  | max => "MAX"

def JoinStrategy.all : List JoinStrategy := [hash, nestedLoop, merge]

namespace TypeFamily

/-- The operators that compare a column of the family with a literal of it. -/
def operators : TypeFamily → List CompareOp
  | integer | decimal => [.eq, .lt, .gt, .le, .ge, .ne]
  | character => [.eq, .ne, .like]
  | boolean => [.eq]
  | date | timestamp | time => [.eq, .lt, .gt]
  | other => []

/-- Sums and averages are for numbers, least and greatest values for ordered families. -/
def aggregates (f : TypeFamily) : List AggregateFunction :=
  if f.isNumeric then [.count, .sum, .avg, .min, .max]
  else if f.isOrdered then [.count, .min, .max]
  else [.count]

/-! ## Lemmas -/

theorem operators_eq_nil_iff {f : TypeFamily} : f.operators = [] ↔ f.isComparable = false := by
  cases f <;> decide

theorem operators_ne_nil {f : TypeFamily} (h : f.isComparable = true) : f.operators ≠ [] :=
  fun hn => by rw [operators_eq_nil_iff.1 hn] at h; contradiction

theorem aggregates_ne_nil (f : TypeFamily) : f.aggregates ≠ [] := by cases f <;> decide

end TypeFamily

end SqlWorkload
