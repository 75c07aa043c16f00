import SqlWorkload.Proofs.Generation.JoinTree
import SqlWorkload.Proofs.Random.Attempts
/-!
# Generation without guards

The generator once more, in attempts: it draws from lists that no one has shown not to be empty,
takes chances that may be no probabilities, joins in a loop that may never end, and counts down from
the number of queries to whatever it is. Over any schema, with any graph and any checked parameters
each of its attempts has a result, and that is what the guarded draw gives.

    the walk ends, with the tables and joins of `expand`          (walk_eq)
    an attempt at a query is a draw of a query                    (query_eq)
    any number of calls give the queries in turn, then nothing more, and before each call as many
    are announced as are still to come                            (calls_of_checked)
-/

namespace SqlWorkload.Generation.Unguarded

open SqlWorkload.Random

/-! ## Algorithm -/

def token (n : Nat) : Attempt (List Char) := .many n (.pick alphabet)

def tokenUpTo (limit : Nat) : Attempt (List Char) := do token (← .between 1 limit)

def date : Attempt Calendar.Date := return firstDay.addDays (← .belowLong daySpan)

def time : Attempt Calendar.TimeOfDay := do
  let ⟨n, h⟩ ← Attempt.below 86400
  return .ofSeconds n h

def literal (c : Column) (op : CompareOp) : Attempt Literal :=
  match c.family with
  | .integer => return .integer ((← .belowLong 1000) + 1 : Nat)
  | .decimal => return .decimal (.ofRatio (← .below 100000) 100)
  | .character =>
    if op = .like then
      return .text (String.ofList ((← tokenUpTo (min (tokenLimit c) maxPattern)) ++ ['%']))
    else return .text (String.ofList (← tokenUpTo (tokenLimit c)))
  | .boolean => return .boolean (← .chance (.ofRatio 1 2))
  | .date => return .date (← date)
  | .timestamp => do
    let day ← date
    return .timestamp ⟨day, ← time⟩
  | .time => return .time (← time)
  | .other => return .text (String.ofList (← token maxToken))

/-- Joins one more table, if there are fewer joins than `limit`; without a table to join, the walk
is over. -/
def walkRound (schema : Schema) (graph : JoinGraph) (limit : Nat) :
    List Table × List Join → Attempt ((List Table × List Join) ⊕ (List Table × List Join)) :=
  fun (tables, joins) => do
    if joins.length < limit then
      if (frontier graph tables).isEmpty then return .inl (tables, joins)
      else
        let (edge, name) ← .pick (frontier graph tables)
        match schema.table? name with
        | none => return .inl (tables, joins)
        | some t => return .inr (tables ++ [t], joins ++ [⟨t.name, edge⟩])
    else return .inl (tables, joins)

noncomputable def walk (schema : Schema) (graph : JoinGraph) (limit : Nat) (tables : List Table) :
    Attempt (List Table × List Join) :=
  .loop (walkRound schema graph limit) (tables, [])

def predicate (columns : List Candidate) : Attempt Predicate := do
  let c ← .pick columns
  let op ← .pick c.family.operators
  let value ← literal c.column op
  return ⟨c.ref, op, value⟩

def predicates (most : Nat) (columns : List Candidate) (keys : List ColumnRef) :
    Attempt (List Predicate) := do
  let count ← .between 0 most
  let eligible := columns.filter fun c => c.family.isComparable && !keys.contains c.ref
  if eligible.isEmpty then return [] else .many count (predicate eligible)

def aggregate (columns : List Candidate) : Attempt Aggregate := do
  let c ← .pick columns
  let function ← .pick c.family.aggregates
  return ⟨function, c.ref⟩

def aggregates (most : Nat) (columns : List Candidate) : Attempt (List Aggregate) := do
  let count ← .between 0 most
  if columns.isEmpty then return [] else .many count (aggregate columns)

def chooseColumns (least most : Nat) (columns : List Candidate) : Attempt (List ColumnRef) :=
  if min columns.length most < least then return []
  else do
    let amount ← .between least (min columns.length most)
    let chosen ← .sample columns.length amount
    return (chosen.mergeSort (· ≤ ·)).map fun i => columns[i].ref

def projection (columns : List Candidate) (grouped : Bool) : Attempt (List ColumnRef) :=
  if grouped then chooseColumns 0 maxGrouped columns else chooseColumns 1 maxProjected columns

def indexHint (params : Parameters) (t : Table) : Attempt (List Hint) := do
  let use ← .chance params.indexHintProbability
  let no ← .chance params.noIndexHintProbability
  if no then return [.noIndex t.name]
  else if use then
    if (hintCandidates t).isEmpty then return []
    else return [.useIndex t.name (← .pick (hintCandidates t))]
  else return []

def indexHints (params : Parameters) : List Table → Attempt (List Hint)
  | [] => return []
  | t :: rest => do
    let hint ← indexHint params t
    return hint ++ (← indexHints params rest)

def joinHint (params : Parameters) (joins : List Join) : Attempt (List Hint) :=
  if joins.isEmpty then return []
  else do
    if ← .chance params.physicalOperatorHintProbability then
      let j ← .pick joins
      let strategy ← .pick JoinStrategy.all
      return [.joinMethod j.edge.fromTable j.edge.toTable strategy]
    else return []

def hints (params : Parameters) (tables : List Table) (joins : List Join) :
    Attempt (List Hint) := do
  let index ← if params.useIndexHints then indexHints params tables else pure []
  let join ← if params.usePhysicalOperatorHints then joinHint params joins else pure []
  return index ++ join

noncomputable def query (schema : Schema) (graph : JoinGraph) (params : Parameters) :
    Attempt Query := do
  let anchor ← .pick schema.tables.values
  let (tables, joins) ← walk schema graph (joinLimit graph params anchor) [anchor]
  let columns := candidates tables
  let predicates ← predicates params.maxPredicates columns (joinKeys joins)
  let aggregates ← aggregates params.maxAggregates columns
  let projection ← projection columns !aggregates.isEmpty
  let hints ← hints params tables joins
  return {
    space := anchor.space
    source := anchor.name
    joins, projection, aggregates, predicates
    groupBy := if aggregates.isEmpty then [] else projection
    hints }

/-- How many queries are still to come, if no more were made than there were to be. -/
def remaining (g : Generator) : Option Nat :=
  if g.schema.isEmpty then some 0
  else if g.emitted ≤ g.params.numQueries then some (g.params.numQueries - g.emitted)
  else none

/-- The least and the greatest number of queries that may be still to come. -/
def sizeHint (g : Generator) : Option (Nat × Option Nat) := do
  let n ← remaining g
  return (n, some n)

/-- Asks for one more query; there may be none left. -/
noncomputable def next (g : Generator) : Option (Option Query × Generator) := do
  if (← remaining g) = 0 then return (none, g)
  else
    let (q, stream) ← query g.schema g.graph g.params g.stream
    return (some q, { g with stream, emitted := g.emitted + 1 })

/-- Asks `n` times. -/
noncomputable def calls : (n : Nat) → Generator → Option (List (Option Query) × Generator)
  | 0, g => return ([], g)
  | n + 1, g => do
    let (q, g) ← next g
    let (rest, g) ← calls n g
    return (q :: rest, g)

/-! ## Literals -/

open Attempt

theorem token_eq (n : Nat) : token n = lift (Generation.token n) :=
  many_eq (pick_eq (by decide)) n

theorem tokenUpTo_eq {limit : Nat} (h : 0 < limit) :
    tokenUpTo limit = lift (Generation.tokenUpTo limit h) := by
  obtain ⟨n, rfl⟩ : ∃ n, limit = n + 1 := ⟨limit - 1, by omega⟩
  rw [tokenUpTo, between_bind h]
  refine bind_eq_lift rfl fun more => ?_
  rw [Nat.add_comm 1]
  exact token_eq _

theorem date_eq : date = lift Generation.date :=
  bind_eq_lift (belowLong_eq (by decide)) fun _ => pure_eq_lift _

theorem time_eq : time = lift Generation.time :=
  bind_eq_lift (below_eq (by decide)) fun _ => pure_eq_lift _

theorem literal_eq (c : Column) (op : CompareOp) :
    literal c op = lift (Generation.literal c op) := by
  unfold literal Generation.literal
  cases c.family with
  | integer => exact bind_eq_lift (belowLong_eq (by decide)) fun _ => pure_eq_lift _
  | decimal => exact bind_eq_lift (below_eq (by decide)) fun _ => pure_eq_lift _
  | character =>
    dsimp only
    split
    · exact bind_eq_lift (tokenUpTo_eq _) fun _ => pure_eq_lift _
    · exact bind_eq_lift (tokenUpTo_eq _) fun _ => pure_eq_lift _
  | boolean => exact bind_eq_lift (chance_eq (by decide +kernel)) fun _ => pure_eq_lift _
  | date => exact bind_eq_lift date_eq fun _ => pure_eq_lift _
  | timestamp =>
    refine bind_eq_lift date_eq fun _ => ?_
    exact bind_eq_lift time_eq fun _ => pure_eq_lift _
  | time => exact bind_eq_lift time_eq fun _ => pure_eq_lift _
  | other => exact bind_eq_lift (token_eq _) fun _ => pure_eq_lift _

/-! ## Joins -/

theorem loop_walkRound (schema : Schema) (graph : JoinGraph) {limit n : Nat} (tables : List Table)
    {joins : List Join} (h : joins.length + n = limit) :
    loop (walkRound schema graph limit) (tables, joins) =
      lift (expand schema graph n tables >>= fun r => pure (r.1, joins ++ r.2)) := by
  induction n generalizing tables joins with
  | zero =>
    rw [loop_eq, walkRound, if_neg (by omega), pure_bind, expand]
    simp [pure_eq_lift]
  | succ n ih =>
    rw [loop_eq, walkRound, if_pos (by omega), expand]
    split
    · next hf =>
      rw [List.isEmpty_iff] at hf
      rw [pure_bind]
      simp [hf, pure_eq_lift]
    · next hf =>
      rw [List.isEmpty_iff] at hf
      rw [dif_neg hf, bind_assoc, bind_assoc]
      refine bind_eq_lift (pick_eq hf) ?_
      rintro ⟨edge, name⟩
      dsimp only
      cases schema.table? name with
      | none =>
        rw [pure_bind]
        simp [pure_eq_lift]
      | some t =>
        have hlength : (joins ++ [(⟨t.name, edge⟩ : Join)]).length + n = limit := by
          rw [List.length_append, List.length_singleton]
          omega
        rw [pure_bind, Sum.elim_inr, ih (tables ++ [t]) hlength]
        simp

theorem walk_eq (schema : Schema) (graph : JoinGraph) (limit : Nat) (tables : List Table) :
    walk schema graph limit tables = lift (expand schema graph limit tables) := by
  rw [walk, loop_walkRound schema graph tables (Nat.zero_add limit)]
  simp

/-! ## Clauses -/

/-- The guarded columns are those that a filter leaves. -/
theorem map_val_eligible (columns : List Candidate) (keys : List ColumnRef) :
    (eligible columns keys).map (·.val) =
      columns.filter fun c => c.family.isComparable && !keys.contains c.ref := by
  induction columns with
  | nil => rfl
  | cons c rest ih =>
    rw [eligible] at ih ⊢
    by_cases hc : c.family.isComparable = true
    · by_cases hk : c.ref ∈ keys <;> simp [hc, hk, ih]
    · simp [hc, ih]

theorem predicate_eq {columns : List { c : Candidate // c.family.isComparable = true }}
    (h : columns ≠ []) :
    predicate (columns.map (·.val)) = lift (Generation.predicate columns h) := by
  rw [predicate, pick_map, bind_assoc]
  refine bind_eq_lift (pick_eq h) fun c => ?_
  rw [pure_bind]
  refine bind_eq_lift (pick_eq (TypeFamily.operators_ne_nil c.property)) fun op => ?_
  exact bind_eq_lift (literal_eq c.val.column op) fun value => pure_eq_lift _

theorem predicates_eq (most : Nat) (columns : List Candidate) (keys : List ColumnRef) :
    predicates most columns keys = lift (Generation.predicates most (eligible columns keys)) := by
  rw [predicates, between_bind (Nat.zero_le most), ← map_val_eligible]
  refine bind_eq_lift rfl fun count => ?_
  dsimp only
  rw [Nat.zero_add]
  by_cases he : eligible columns keys = []
  · rw [dif_pos he, he]
    exact pure_eq_lift _
  · rw [dif_neg he, if_neg (by rwa [List.isEmpty_iff, List.map_eq_nil_iff])]
    exact many_eq (predicate_eq he) count

theorem aggregate_eq {columns : List Candidate} (h : columns ≠ []) :
    aggregate columns = lift (Generation.aggregate columns h) := by
  refine bind_eq_lift (pick_eq h) fun c => ?_
  exact bind_eq_lift (pick_eq (TypeFamily.aggregates_ne_nil _)) fun _ => pure_eq_lift _

theorem aggregates_eq (most : Nat) (columns : List Candidate) :
    aggregates most columns = lift (Generation.aggregates most columns) := by
  rw [aggregates, between_bind (Nat.zero_le most)]
  refine bind_eq_lift rfl fun count => ?_
  rw [Nat.zero_add]
  split
  · next he =>
    rw [dif_pos (List.isEmpty_iff.1 he)]
    exact pure_eq_lift _
  · next he =>
    rw [List.isEmpty_iff] at he
    rw [dif_neg he]
    exact many_eq (aggregate_eq he) count

theorem chooseColumns_eq (least most : Nat) (columns : List Candidate) :
    chooseColumns least most columns = lift (Generation.chooseColumns least most columns) := by
  unfold chooseColumns Generation.chooseColumns
  split
  · exact pure_eq_lift _
  · next h =>
    rw [between_bind (Nat.le_of_not_lt h)]
    refine bind_eq_lift rfl fun more => ?_
    exact bind_eq_lift (sample_eq (by omega)) fun chosen => pure_eq_lift _

theorem projection_eq (columns : List Candidate) (grouped : Bool) :
    projection columns grouped = lift (Generation.projection columns grouped) := by
  unfold projection Generation.projection
  split <;> exact chooseColumns_eq _ _ _

/-! ## Hints -/

section

variable {params : Parameters} (hv : params.Valid)

include hv

theorem indexHint_eq (t : Table) : indexHint params t = lift (Generation.indexHint params t) := by
  refine bind_eq_lift (chance_eq hv.index_inUnit) fun use => ?_
  refine bind_eq_lift (chance_eq hv.noIndex_inUnit) fun no => ?_
  split
  · exact pure_eq_lift _
  · split
    · split
      · next he =>
        rw [dif_pos (List.isEmpty_iff.1 he)]
        exact pure_eq_lift _
      · next he =>
        rw [List.isEmpty_iff] at he
        rw [dif_neg he]
        exact bind_eq_lift (pick_eq he) fun _ => pure_eq_lift _
    · exact pure_eq_lift _

theorem indexHints_eq (tables : List Table) :
    indexHints params tables = lift (Generation.indexHints params tables) := by
  induction tables with
  | nil => exact pure_eq_lift _
  | cons t rest ih =>
    refine bind_eq_lift (indexHint_eq hv t) fun hint => ?_
    exact bind_eq_lift ih fun others => pure_eq_lift _

theorem joinHint_eq (joins : List Join) :
    joinHint params joins = lift (Generation.joinHint params joins) := by
  unfold joinHint Generation.joinHint
  split
  · next he =>
    rw [dif_pos (List.isEmpty_iff.1 he)]
    exact pure_eq_lift _
  · next he =>
    rw [List.isEmpty_iff] at he
    rw [dif_neg he]
    refine bind_eq_lift (chance_eq hv.physical_inUnit) fun wanted => ?_
    split
    · refine bind_eq_lift (pick_eq he) fun j => ?_
      exact bind_eq_lift (pick_eq (by decide)) fun strategy => pure_eq_lift _
    · exact pure_eq_lift _

theorem hints_eq (tables : List Table) (joins : List Join) :
    hints params tables joins = lift (Generation.hints params tables joins) := by
  have given_eq {asked : Bool} {x : Attempt (List Hint)} {d : Draw (List Hint)} (h : x = lift d) :
      (if asked = true then x else pure []) = lift (if asked = true then d else pure []) := by
    split
    · exact h
    · exact pure_eq_lift _
  have hsplit : hints params tables joins =
      (if params.useIndexHints then indexHints params tables else pure []) >>= fun index =>
        (if params.usePhysicalOperatorHints then joinHint params joins else pure []) >>=
          fun join => pure (index ++ join) := by
    unfold hints
    split <;> split <;> rfl
  rw [hsplit, Generation.hints_eq]
  refine bind_eq_lift (given_eq (indexHints_eq hv tables)) fun index => ?_
  exact bind_eq_lift (given_eq (joinHint_eq hv joins)) fun join => pure_eq_lift _

/-! ## Queries -/

theorem query_eq (schema : Schema) (graph : JoinGraph) (h : schema.tables.values ≠ []) :
    query schema graph params = lift (Generation.query schema graph params h) := by
  refine bind_eq_lift (pick_eq h) fun anchor => ?_
  refine bind_eq_lift (walk_eq schema graph _ [anchor]) ?_
  rintro ⟨tables, joins⟩
  refine bind_eq_lift (predicates_eq _ _ _) fun predicates => ?_
  refine bind_eq_lift (aggregates_eq _ _) fun aggregates => ?_
  refine bind_eq_lift (projection_eq _ _) fun projection => ?_
  exact bind_eq_lift (hints_eq hv tables joins) fun hints => pure_eq_lift _

end

/-! ## Sequences -/

/-- A generator that may be met while a sequence is made: its parameters were checked, and no more
queries were made than there were to be. -/
structure UnderWay (g : Generator) : Prop where
  valid : g.params.Valid
  emitted_le : g.emitted ≤ g.params.numQueries

theorem UnderWay.remaining_eq {g : Generator} (h : UnderWay g) :
    remaining g = some g.remaining := by
  unfold remaining Generator.remaining
  by_cases ht : g.schema.tables.values = []
  · have hempty : g.schema.isEmpty = true := by
      simpa [Schema.isEmpty, OrderedMap.isEmpty, OrderedMap.values] using ht
    rw [if_pos hempty, if_pos ht]
  · rw [if_neg (by simpa using Schema.isEmpty_eq_false_iff.2 ht), if_pos h.emitted_le, if_neg ht]

/-- What the guarded generator answers to a call, and the generator after it. -/
def answer (g : Generator) : Option Query × Generator :=
  match g.next? with
  | some (q, g') => (some q, g')
  | none => (none, g)

theorem UnderWay.next_eq {g : Generator} (h : UnderWay g) : next g = some (answer g) := by
  rw [next, h.remaining_eq, answer, Option.bind_eq_bind, Option.bind_some]
  by_cases hr : g.remaining = 0
  · rw [if_pos hr, Generator.next?_eq_none_iff.2 hr]
    rfl
  · rw [if_neg hr]
    have ht : g.schema.tables.values ≠ [] := fun ht => hr (if_pos ht)
    have hn : ¬ g.params.numQueries ≤ g.emitted := by
      rw [Generator.remaining, if_neg ht] at hr
      omega
    rw [query_eq h.valid g.schema g.graph ht, Generator.next?, dif_neg ht, if_neg hn]
    rfl

theorem UnderWay.underWay_answer {g : Generator} (h : UnderWay g) : UnderWay (answer g).2 := by
  unfold Unguarded.answer Generator.next?
  by_cases ht : g.schema.tables.values = []
  · rw [dif_pos ht]
    exact h
  · rw [dif_neg ht]
    split
    · next q g' hnext =>
      split at hnext
      · contradiction
      · next hn =>
        cases hnext
        exact ⟨h.valid, Nat.lt_of_not_le hn⟩
    · exact h

/-- The answers to any number of calls are the queries of the sequence, and then nothing. -/
theorem UnderWay.calls_eq {g : Generator} (h : UnderWay g) (n : Nat) :
    ∃ g', UnderWay g' ∧ g'.remaining = g.remaining - n ∧
      calls n g =
        some ((g.queries.take n).map some ++ List.replicate (n - g.remaining) none, g') := by
  induction n generalizing g with
  | zero => exact ⟨g, h, rfl, by simp [calls]⟩
  | succ n ih =>
    obtain ⟨g', hg', hr, hrest⟩ := ih h.underWay_answer
    refine ⟨g', hg', ?_⟩
    rw [calls, h.next_eq, Option.bind_eq_bind, Option.bind_some]
    unfold Unguarded.answer at hr hrest ⊢
    cases hnext : g.next? with
    | none =>
      have h0 := Generator.next?_eq_none_iff.1 hnext
      simp only [hnext] at hr hrest ⊢
      refine ⟨by omega, ?_⟩
      simp [hrest, Generator.queries_eq_nil h0, h0, List.replicate_succ]
    | some drawn =>
      have hremaining := Generator.remaining_next hnext
      simp only [hnext] at hr hrest ⊢
      refine ⟨by omega, ?_⟩
      simp [hrest, Generator.queries_of_next hnext, hremaining]

end SqlWorkload.Generation.Unguarded

namespace SqlWorkload.Generator

open Generation

theorem calls_of_checked {s : Schema} {graph : JoinGraph} {p r : Parameters}
    (h : p.checked = .ok r) :
    ∃ g, start s graph p = .ok g ∧ g.queries.length = (if s.isEmpty then 0 else p.numQueries) ∧
      ∀ n, ∃ g',
        Unguarded.calls n g = some ((g.queries.take n).map some ++
          List.replicate (n - g.queries.length) none, g') ∧
        Unguarded.sizeHint g' =
          some ((g.queries.drop n).length, some (g.queries.drop n).length) := by
  have hg : start s graph p = .ok ⟨s, graph, r, .ofSeed r.seed, 0⟩ :=
    start_eq_ok_iff.2 ⟨r, h, rfl⟩
  refine ⟨_, hg, ?_, fun n => ?_⟩
  · rw [length_queries]
    cases hs : s.isEmpty with
    | false => exact remaining_start hs hg
    | true =>
      exact if_pos (by simpa [Schema.isEmpty, OrderedMap.isEmpty, OrderedMap.values] using hs)
  · have hway : Unguarded.UnderWay ⟨s, graph, r, .ofSeed r.seed, 0⟩ :=
      ⟨Parameters.valid_of_checked h, Nat.zero_le _⟩
    obtain ⟨g', hg', hr, hcalls⟩ := hway.calls_eq n
    refine ⟨g', by rw [hcalls, length_queries], ?_⟩
    rw [Unguarded.sizeHint, hg'.remaining_eq, hr, List.length_drop, length_queries]
    rfl

/-- Tables under other names than their own, one with a column twice and one without any. -/
def strayed : Schema :=
  let id : Column := { name := "id", dataType := "integer" }
  { source := "strayed"
    tables := .ofList
      [("offices", { name := "people", space := "public", columns := [id, id] }),
        ("people", { name := "offices", space := "public" })] }

/-- On the graph of another schema, whose edges lead to tables that are not what they are named. -/
theorem calls_of_checked_strayed :
    ∃ p r : Parameters, p.checked = .ok r ∧ ∃ g, start strayed (.build staff) p = .ok g ∧
      ∃ q q' g', Unguarded.calls 3 g = some ([some q, some q', none], g') ∧
        Unguarded.sizeHint g' = some (0, some 0) := by
  have h : ({ numQueries := 2 } : Parameters).checked = .ok _ :=
    Parameters.checked_eq_ok_iff.2 ⟨by decide +kernel, rfl⟩
  obtain ⟨g, hg, hlength, hcalls⟩ := @calls_of_checked strayed (.build staff) _ _ h
  refine ⟨_, _, h, g, hg, ?_⟩
  obtain ⟨q, q', hq⟩ : ∃ q q', g.queries = [q, q'] := by
    have htwo : g.queries.length = 2 := hlength
    match g.queries, htwo with
    | [q, q'], _ => exact ⟨q, q', rfl⟩
  obtain ⟨g', hcalls, hhint⟩ := hcalls 3
  rw [hq] at hcalls hhint
  exact ⟨q, q', g', hcalls, hhint⟩

end SqlWorkload.Generator
