import SqlWorkload.Generation.Literals
import SqlWorkload.JoinGraph
import SqlWorkload.Parameters
/-!
# The generator

A sequence of random queries over a schema. One random stream makes every choice, and whatever is
chosen from is listed in the order of names, so that the same input gives the same sequence.

    remaining after each query is one less, and 0 from the start without a table
                                                                  (remaining_next)
    (g.take n).1.length = min n g.remaining                        (length_take)
-/

namespace SqlWorkload

open SqlWorkload.Random

namespace Generation

/-! ## Algorithm -/

/-- The most columns projected without aggregates, and beside them. -/
def maxProjected : Nat := 4

def maxGrouped : Nat := 2

/-- A column of the query with the name of its table. -/
structure Candidate where
  table : String
  column : Column
deriving DecidableEq

namespace Candidate

def ref (c : Candidate) : ColumnRef := ⟨c.table, c.column.name⟩

def family (c : Candidate) : TypeFamily := c.column.family

end Candidate

/-- The columns of the tables, in the order of the tables. -/
def candidates (tables : List Table) : List Candidate :=
  tables.flatMap fun t => t.columns.map fun c => ⟨t.name, c⟩

/-! ### Joins -/

/-- The edges that lead out of the tables of the query, each with the table that it leads to. -/
def frontier (graph : JoinGraph) (tables : List Table) : List (ForeignKeyEdge × String) :=
  (tables.flatMap fun t => (graph.neighbors t.name).map fun e => (e, e.otherEnd t.name)).filter
    fun x => !tables.any (·.name == x.2)

/-- Joins up to `limit` more tables to those of the query, each by an edge of the frontier. -/
def expand (schema : Schema) (graph : JoinGraph) :
    (limit : Nat) → List Table → Draw (List Table × List Join)
  | 0, tables => return (tables, [])
  | limit + 1, tables =>
    if h : frontier graph tables = [] then return (tables, [])
    else do
      let (edge, name) ← Draw.pick (frontier graph tables) h
      match schema.table? name with
      | none => return (tables, [])
      | some t =>
        let (tables, joins) ← expand schema graph limit (tables ++ [t])
        return (tables, ⟨t.name, edge⟩ :: joins)

/-- How many tables may be joined to a table. -/
def joinLimit (graph : JoinGraph) (params : Parameters) (anchor : Table) : Nat :=
  min params.maxJoins (graph.reachableCount anchor.name - 1)

/-- The columns that the joins compare. -/
def joinKeys (joins : List Join) : List ColumnRef :=
  joins.flatMap fun j => [j.edge.fromRef, j.edge.toRef]

/-! ### Predicates and aggregates -/

/-- The columns that a predicate may be put on: those that a literal compares with, the join keys
left out. -/
def eligible (columns : List Candidate) (keys : List ColumnRef) :
    List { c : Candidate // c.family.isComparable = true } :=
  columns.filterMap fun c =>
    if h : c.family.isComparable = true then
      if c.ref ∈ keys then none else some ⟨c, h⟩
    else none

def predicate (columns : List { c : Candidate // c.family.isComparable = true })
    (h : columns ≠ []) : Draw Predicate := do
  let c ← Draw.pick columns h
  let op ← Draw.pick c.val.family.operators (TypeFamily.operators_ne_nil c.property)
  let value ← literal c.val.column op
  return ⟨c.val.ref, op, value⟩

def predicates (most : Nat) (columns : List { c : Candidate // c.family.isComparable = true }) :
    Draw (List Predicate) := do
  let count ← Draw.below (most + 1) (Nat.succ_pos most)
  if h : columns = [] then return [] else Draw.many count (predicate columns h)

def aggregate (columns : List Candidate) (h : columns ≠ []) : Draw Aggregate := do
  let c ← Draw.pick columns h
  let function ← Draw.pick c.family.aggregates (TypeFamily.aggregates_ne_nil _)
  return ⟨function, c.ref⟩

def aggregates (most : Nat) (columns : List Candidate) : Draw (List Aggregate) := do
  let count ← Draw.below (most + 1) (Nat.succ_pos most)
  if h : columns = [] then return [] else Draw.many count (aggregate columns h)

/-! ### Projection -/

/-- At least `least` columns and at most `most`, as far as there are so many, in their order. -/
def chooseColumns (least most : Nat) (columns : List Candidate) : Draw (List ColumnRef) :=
  if h : min columns.length most < least then return []
  else do
    let more ← Draw.below (min columns.length most - least + 1) (Nat.succ_pos _)
    let chosen ← Draw.sample columns.length (least + more) (by omega)
    return (chosen.mergeSort (· ≤ ·)).map fun i => columns[i].ref

/-- The projected columns. Beside aggregates they are grouping columns: fewer, or none at all. -/
def projection (columns : List Candidate) (grouped : Bool) : Draw (List ColumnRef) :=
  if grouped then chooseColumns 0 maxGrouped columns else chooseColumns 1 maxProjected columns

/-! ### Hints -/

/-- The index names that a hint may name: the unique ones, or all if none is unique. -/
def hintCandidates (t : Table) : List String :=
  let unique := t.indexes.filter (·.isUnique)
  (if unique.isEmpty then t.indexes else unique).map (·.name)

/-- The hint for one table. Both chances are taken, and doing without indexes wins. -/
def indexHint (params : Parameters) (t : Table) : Draw (List Hint) := do
  let use ← Draw.chance params.indexHintProbability
  let no ← Draw.chance params.noIndexHintProbability
  if no then return [.noIndex t.name]
  else if use then
    if h : hintCandidates t = [] then return []
    else return [.useIndex t.name (← Draw.pick (hintCandidates t) h)]
  else return []

def indexHints (params : Parameters) : List Table → Draw (List Hint)
  | [] => return []
  | t :: rest => do
    let hint ← indexHint params t
    return hint ++ (← indexHints params rest)

def joinHint (params : Parameters) (joins : List Join) : Draw (List Hint) :=
  if h : joins = [] then return []
  else do
    if ← Draw.chance params.physicalOperatorHintProbability then
      let j ← Draw.pick joins h
      let strategy ← Draw.pick JoinStrategy.all (by decide)
      return [.joinMethod j.edge.fromTable j.edge.toTable strategy]
    else return []

def hints (params : Parameters) (tables : List Table) (joins : List Join) : Draw (List Hint) := do
  let index ← if params.useIndexHints then indexHints params tables else pure []
  let join ← if params.usePhysicalOperatorHints then joinHint params joins else pure []
  return index ++ join

/-! ### Queries -/

/-- A query over the tables that the walk from `anchor` reached. -/
def queryOver (params : Parameters) (anchor : Table) (tables : List Table) (joins : List Join) :
    Draw Query := do
  let columns := candidates tables
  let predicates ← predicates params.maxPredicates (eligible columns (joinKeys joins))
  let aggregates ← aggregates params.maxAggregates columns
  let projection ← projection columns !aggregates.isEmpty
  let hints ← hints params tables joins
  return {
    space := anchor.space
    source := anchor.name
    joins, projection, aggregates, predicates
    groupBy := if aggregates.isEmpty then [] else projection
    hints }

def query (schema : Schema) (graph : JoinGraph) (params : Parameters)
    (h : schema.tables.values ≠ []) : Draw Query := do
  let anchor ← Draw.pick schema.tables.values h
  let (tables, joins) ← expand schema graph (joinLimit graph params anchor) [anchor]
  queryOver params anchor tables joins

end Generation

/-- A sequence of queries under way: what is left of the random stream, and how many queries have
been made. -/
structure Generator where
  schema : Schema
  graph : JoinGraph
  params : Parameters
  stream : Stream
  emitted : Nat
deriving DecidableEq

namespace Generator

/-- A generator for checked parameters, at the start of its sequence. -/
def start (schema : Schema) (graph : JoinGraph) (params : Parameters) :
    Except ParameterError Generator := do
  let params ← params.checked
  return ⟨schema, graph, params, .ofSeed params.seed, 0⟩

/-- How many queries are still to come. -/
def remaining (g : Generator) : Nat :=
  if g.schema.tables.values = [] then 0 else g.params.numQueries - g.emitted

def next? (g : Generator) : Option (Query × Generator) :=
  if h : g.schema.tables.values = [] then none
  else if g.params.numQueries ≤ g.emitted then none
  else
    let drawn := Generation.query g.schema g.graph g.params h g.stream
    some (drawn.1, { g with stream := drawn.2, emitted := g.emitted + 1 })

/-- The next `n` queries, or as many as there are, and the generator after them. -/
def take : Nat → Generator → List Query × Generator
  | 0, g => ([], g)
  | n + 1, g =>
    match g.next? with
    | none => ([], g)
    | some (q, g) =>
      let (rest, g) := take n g
      (q :: rest, g)

/-- All queries of the sequence. -/
def queries (g : Generator) : List Query := (take g.remaining g).1

/-! ## Lemmas -/

theorem remaining_next {g g' : Generator} {q : Query} (h : g.next? = some (q, g')) :
    g.remaining = g'.remaining + 1 := by
  unfold next? at h
  split at h
  · contradiction
  next ht =>
    split at h
    · contradiction
    next hn =>
      cases h
      simp only [remaining, if_neg ht]
      omega

theorem next?_eq_none_iff {g : Generator} : g.next? = none ↔ g.remaining = 0 := by
  unfold next? remaining
  split
  · simp
  next ht =>
    split
    · next hn => exact ⟨fun _ => Nat.sub_eq_zero_of_le hn, fun _ => rfl⟩
    · next hn => exact ⟨fun h => absurd h (by simp), fun h => absurd h (by omega)⟩

theorem length_take (n : Nat) (g : Generator) : (take n g).1.length = min n g.remaining := by
  induction n generalizing g with
  | zero => simp [take]
  | succ n ih =>
    rw [take]
    split
    · next h => simp [next?_eq_none_iff.1 h]
    · next q g' h =>
      have := remaining_next h
      simp only [List.length_cons, ih g']
      omega

end Generator

end SqlWorkload
