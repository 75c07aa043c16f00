import SqlWorkload.Proofs.Generation.Walk
import SqlWorkload.Proofs.Random.Chances
import SqlWorkload.Proofs.Random.Samples
/-!
# The queries of a sequence

What every query of a sequence is made of, wherever it stands. Its joins are a walk from an anchor
table, and its clauses name columns, indexes and joins of the tables that the walk met.

    what a query drawn always has, each query of the sequence has (forall_queries)
    a clause is made of as many parts as are drawn, and of none without columns (always_upTo)
    the two chances that are taken for a table decide on its hint (always_indexHint)
    each query of the sequence is drawn over a walk, and has what its clauses always have
                                                                  (drawn_and_of_mem_queries)
-/

namespace SqlWorkload.Generation

open SqlWorkload.Random

/-! ## Clauses -/

theorem mem_candidates {tables : List Table} {c : Candidate} :
    c ∈ candidates tables ↔ ∃ t ∈ tables, ∃ d ∈ t.columns, c = ⟨t.name, d⟩ := by
  simp [candidates, List.mem_flatMap, eq_comm]

theorem mem_eligible {columns : List Candidate} {keys : List ColumnRef}
    {c : { c : Candidate // c.family.isComparable = true }} :
    c ∈ eligible columns keys ↔ c.val ∈ columns ∧ c.val.ref ∉ keys := by
  obtain ⟨c, hc⟩ := c
  rw [eligible, List.mem_filterMap]
  constructor
  · rintro ⟨d, hd, h⟩
    split at h
    · split at h
      · cases h
      · next hk => cases h; exact ⟨hd, hk⟩
    · cases h
  · rintro ⟨hd, hk⟩
    exact ⟨c, hd, by rw [dif_pos hc, if_neg hk]⟩

/-- A predicate compares an eligible column by one of its operators with one of its literals. -/
def Compares (columns : List Candidate) (keys : List ColumnRef) (p : Predicate) : Prop :=
  ∃ c ∈ columns, c.ref ∉ keys ∧ c.family.isComparable = true ∧ p.column = c.ref ∧
    p.op ∈ c.family.operators ∧ ∃ s, p.value = (literal c.column p.op s).1

/-- An aggregate applies one of the functions of a column to it. -/
def Aggregates (columns : List Candidate) (a : Aggregate) : Prop :=
  ∃ c ∈ columns, a.column = c.ref ∧ a.function ∈ c.family.aggregates

/-- The hints that may be given for tables and joins. -/
inductive Hints (tables : List Table) (joins : List Join) : Hint → Prop
  | noIndex {t : Table} (ht : t ∈ tables) : Hints tables joins (.noIndex t.name)
  | useIndex {t : Table} {i : ColumnIndex} (ht : t ∈ tables) (hi : i ∈ t.indexes) :
      Hints tables joins (.useIndex t.name i.name)
  | joinMethod {j : Join} (hj : j ∈ joins) (strategy : JoinStrategy) :
      Hints tables joins (.joinMethod j.edge.fromTable j.edge.toTable strategy)

/-- As many draws as a number tells that is drawn first, but none without anything to draw from. -/
theorem always_upTo {α β : Type} {P : α → Prop} {items : List β} {d : items ≠ [] → Draw α}
    (hd : ∀ h, (d h).Always P) (most : Nat) :
    (Draw.below (most + 1) (Nat.succ_pos most) >>= fun count =>
      if h : items = [] then pure [] else Draw.many count (d h)).Always fun l =>
        (∀ a ∈ l, P a) ∧ l.length ≤ most ∧ (items = [] → l = []) := by
  apply Draw.always_bind
  intro count
  split
  · exact Draw.always_pure ⟨by simp, Nat.zero_le most, fun _ => rfl⟩
  · next h =>
    intro s
    refine ⟨Draw.always_many (hd h) s, ?_, fun hnil => absurd hnil h⟩
    rw [Draw.length_many]
    exact Nat.le_of_lt_succ count.isLt

theorem always_predicate {columns : List Candidate} {keys : List ColumnRef}
    (h : eligible columns keys ≠ []) :
    (predicate (eligible columns keys) h).Always (Compares columns keys) := by
  refine (Draw.always_pick _ h).bind fun c hc => ?_
  refine (Draw.always_pick _ _).bind fun op hop => ?_
  refine (Draw.always_possible _).bind fun value hvalue => ?_
  obtain ⟨hmem, hkey⟩ := mem_eligible.1 hc
  exact Draw.always_pure ⟨c.val, hmem, hkey, c.property, rfl, hop, hvalue⟩

theorem always_predicates (most : Nat) (columns : List Candidate) (keys : List ColumnRef) :
    (predicates most (eligible columns keys)).Always fun ps =>
      (∀ p ∈ ps, Compares columns keys p) ∧ ps.length ≤ most ∧
        (eligible columns keys = [] → ps = []) :=
  always_upTo always_predicate most

theorem always_aggregate {columns : List Candidate} (h : columns ≠ []) :
    (aggregate columns h).Always (Aggregates columns) := by
  refine (Draw.always_pick _ h).bind fun c hc => ?_
  refine (Draw.always_pick _ _).bind fun function hf => ?_
  exact Draw.always_pure ⟨c, hc, rfl, hf⟩

theorem always_aggregates (most : Nat) (columns : List Candidate) :
    (aggregates most columns).Always fun as =>
      (∀ a ∈ as, Aggregates columns a) ∧ as.length ≤ most ∧ (columns = [] → as = []) :=
  always_upTo always_aggregate most

/-- The columns chosen are a part of those there are, in their order. There are as many as the
bounds and the number of all columns allow. -/
theorem always_chooseColumns (least most : Nat) (columns : List Candidate) :
    (chooseColumns least most columns).Always fun refs =>
      refs.Sublist (columns.map (·.ref)) ∧ refs.length ≤ min columns.length most ∧
        (least ≤ min columns.length most → least ≤ refs.length) := by
  unfold chooseColumns
  split
  · next h =>
    exact Draw.always_pure
      ⟨List.nil_sublist _, Nat.zero_le _, fun hle => absurd h (Nat.not_lt.2 hle)⟩
  · next h =>
    apply Draw.always_bind
    intro more
    refine (Draw.always_sample _).bind fun chosen hchosen => ?_
    obtain ⟨hdistinct, hlength⟩ := hchosen
    refine Draw.always_pure ⟨?_, ?_⟩
    · have hsublist := (Draw.sublist_of_positions hdistinct).map (·.ref)
      rwa [List.map_map] at hsublist
    · rw [List.length_map, List.length_mergeSort, hlength]
      have := more.isLt
      omega

theorem always_projection (columns : List Candidate) (grouped : Bool) :
    (projection columns grouped).Always fun refs => refs ⊆ columns.map (·.ref) := by
  unfold projection
  split <;> exact (always_chooseColumns _ _ _).mono fun _ h => h.1.subset

/-! ## Hints -/

theorem indexes_eq_nil_of_hintCandidates {t : Table} (h : hintCandidates t = []) :
    t.indexes = [] := by
  unfold hintCandidates at h
  have hnil := List.map_eq_nil_iff.1 h
  split at hnil
  · exact hnil
  · next hne => exact absurd (List.isEmpty_iff.2 hnil) hne

/-- A candidate is an index of the table, and a unique one if there is any. -/
theorem exists_index_of_mem_hintCandidates {t : Table} {name : String}
    (h : name ∈ hintCandidates t) : ∃ i ∈ t.indexes, i.name = name ∧
      ((∃ k ∈ t.indexes, k.isUnique = true) → i.isUnique = true) := by
  unfold hintCandidates at h
  obtain ⟨i, hi, rfl⟩ := List.mem_map.1 h
  split at hi
  · next hnone =>
    refine ⟨i, hi, rfl, fun ⟨k, hk, hunique⟩ => ?_⟩
    have hmem := List.mem_filter.2 ⟨hk, hunique⟩
    rw [List.isEmpty_iff.1 hnone] at hmem
    exact absurd hmem List.not_mem_nil
  · obtain ⟨hmem, hunique⟩ := List.mem_filter.1 hi
    exact ⟨i, hmem, rfl, fun _ => hunique⟩

/-- What may come of the two chances that are taken for a table. -/
inductive HintFor (params : Parameters) (t : Table) : List Hint → Prop
  | noIndex (no : (Draw.chance params.noIndexHintProbability).Possible true) :
      HintFor params t [.noIndex t.name]
  | useIndex (no : (Draw.chance params.noIndexHintProbability).Possible false)
      (use : (Draw.chance params.indexHintProbability).Possible true) {i : ColumnIndex}
      (hi : i ∈ t.indexes)
      (preferred : (∃ k ∈ t.indexes, k.isUnique = true) → i.isUnique = true) :
      HintFor params t [.useIndex t.name i.name]
  | none (no : (Draw.chance params.noIndexHintProbability).Possible false)
      (use : t.indexes = [] ∨ (Draw.chance params.indexHintProbability).Possible false) :
      HintFor params t []

/-- The hints for the tables, one after the other. -/
inductive HintsAlong (params : Parameters) : List Table → List Hint → Prop
  | nil : HintsAlong params [] []
  | cons {t : Table} {tables : List Table} {first others : List Hint}
      (hfirst : HintFor params t first) (hothers : HintsAlong params tables others) :
      HintsAlong params (t :: tables) (first ++ others)

/-- First the index hints and then a hint for one of the joins, as far as they are asked for. -/
structure HintsOver (params : Parameters) (tables : List Table) (joins : List Join)
    (index join : List Hint) : Prop where
  asked : params.useIndexHints = true → HintsAlong params tables index
  not_asked : params.useIndexHints = false → index = []
  join : join = [] ∨ params.usePhysicalOperatorHints = true ∧ ∃ j ∈ joins, ∃ strategy,
    join = [.joinMethod j.edge.fromTable j.edge.toTable strategy]

theorem always_indexHint (params : Parameters) (t : Table) :
    (indexHint params t).Always (HintFor params t) := by
  refine (Draw.always_possible _).bind fun use huse => ?_
  refine (Draw.always_possible _).bind fun no hno => ?_
  cases no with
  | true => exact Draw.always_pure (.noIndex hno)
  | false =>
    cases use with
    | false => exact Draw.always_pure (.none hno (.inr huse))
    | true =>
      rw [if_neg Bool.false_ne_true, if_pos rfl]
      split
      · next hnil =>
        exact Draw.always_pure (.none hno (.inl (indexes_eq_nil_of_hintCandidates hnil)))
      · next hne =>
        refine (Draw.always_pick _ hne).bind fun name hname => ?_
        obtain ⟨i, hi, rfl, hpreferred⟩ := exists_index_of_mem_hintCandidates hname
        exact Draw.always_pure (.useIndex hno huse hi hpreferred)

theorem always_indexHints (params : Parameters) (tables : List Table) :
    (indexHints params tables).Always (HintsAlong params tables) := by
  induction tables with
  | nil => exact Draw.always_pure .nil
  | cons t rest ih =>
    refine (always_indexHint params t).bind fun first hfirst => ?_
    exact ih.bind fun others hothers => Draw.always_pure (.cons hfirst hothers)

theorem always_joinHint (params : Parameters) (joins : List Join) :
    (joinHint params joins).Always fun hs => hs = [] ∨ ∃ j ∈ joins, ∃ strategy,
      hs = [.joinMethod j.edge.fromTable j.edge.toTable strategy] := by
  unfold joinHint
  split
  · exact Draw.always_pure (.inl rfl)
  · next hne =>
    apply Draw.always_bind
    intro wanted
    split
    · refine (Draw.always_pick _ hne).bind fun j hj => ?_
      apply Draw.always_bind
      intro strategy
      exact Draw.always_pure (.inr ⟨j, hj, strategy, rfl⟩)
    · exact Draw.always_pure (.inl rfl)

/-- Index hints and join hints are drawn one after the other, each only if asked for. -/
theorem hints_eq (params : Parameters) (tables : List Table) (joins : List Join) :
    hints params tables joins =
      (if params.useIndexHints then indexHints params tables else pure []) >>= fun index =>
        (if params.usePhysicalOperatorHints then joinHint params joins else pure []) >>=
          fun join => pure (index ++ join) := by
  unfold hints
  split <;> split <;> rfl

theorem always_hints (params : Parameters) (tables : List Table) (joins : List Join) :
    (hints params tables joins).Always fun hs =>
      ∃ index join, hs = index ++ join ∧ HintsOver params tables joins index join := by
  have hindex : (if params.useIndexHints = true then indexHints params tables else pure []).Always
      fun index => (params.useIndexHints = true → HintsAlong params tables index) ∧
        (params.useIndexHints = false → index = []) := by
    split
    · next hasked =>
      exact (always_indexHints params tables).mono fun index h => ⟨fun _ => h, by simp [hasked]⟩
    · next hasked => exact Draw.always_pure ⟨fun h => absurd h hasked, fun _ => rfl⟩
  have hjoin : (if params.usePhysicalOperatorHints = true then joinHint params joins
      else pure []).Always fun join => join = [] ∨ params.usePhysicalOperatorHints = true ∧
        ∃ j ∈ joins, ∃ strategy,
          join = [.joinMethod j.edge.fromTable j.edge.toTable strategy] := by
    split
    · next hasked =>
      exact (always_joinHint params joins).mono fun join h => h.imp_right (⟨hasked, ·⟩)
    · exact Draw.always_pure (.inl rfl)
  rw [hints_eq]
  refine hindex.bind fun index ⟨hasked, hnot⟩ => hjoin.bind fun join h => ?_
  exact Draw.always_pure ⟨index, join, rfl, hasked, hnot, h⟩

/-! ### What the hints are about -/

variable {params : Parameters} {tables : List Table} {joins : List Join} {index join : List Hint}

theorem HintsAlong.exists_table (h : HintsAlong params tables index) {x : Hint} (hx : x ∈ index) :
    ∃ t ∈ tables, ∃ part, HintFor params t part ∧ x ∈ part := by
  induction h with
  | nil => exact absurd hx List.not_mem_nil
  | cons hfirst _ ih =>
    rcases List.mem_append.1 hx with hx | hx
    · exact ⟨_, List.mem_cons_self, _, hfirst, hx⟩
    · obtain ⟨t, ht, part⟩ := ih hx
      exact ⟨t, List.mem_cons_of_mem _ ht, part⟩

theorem HintsOver.exists_table (h : HintsOver params tables joins index join) {x : Hint}
    (hx : x ∈ index) : ∃ t ∈ tables, ∃ part, HintFor params t part ∧ x ∈ part := by
  cases hasked : params.useIndexHints with
  | true => exact (h.asked hasked).exists_table hx
  | false =>
    rw [h.not_asked hasked] at hx
    exact absurd hx List.not_mem_nil

theorem HintsOver.hint (h : HintsOver params tables joins index join) :
    ∀ x ∈ index ++ join, Hints tables joins x := by
  intro x hx
  rcases List.mem_append.1 hx with hx | hx
  · obtain ⟨t, ht, part, hpart, hx⟩ := h.exists_table hx
    cases hpart with
    | noIndex => exact List.mem_singleton.1 hx ▸ .noIndex ht
    | useIndex no use hi => exact List.mem_singleton.1 hx ▸ .useIndex ht hi
    | none => exact absurd hx List.not_mem_nil
  · rcases h.join with rfl | ⟨-, j, hj, strategy, rfl⟩
    · exact absurd hx List.not_mem_nil
    · exact List.mem_singleton.1 hx ▸ .joinMethod hj strategy

/-! ## Queries -/

/-- A query drawn over a walk through the schema from an anchor table to all of `tables`. -/
structure Drawn (s : Schema) (params : Parameters) (q : Query) (anchor : Table)
    (tables : List Table) : Prop where
  anchor_mem : anchor ∈ s.tables.values
  walk : Walk s [anchor] tables q.joins
  length_joins : q.joins.length = joinLimit (.build s) params anchor
  source_eq : q.source = anchor.name
  space_eq : q.space = anchor.space
  predicate : ∀ p ∈ q.predicates, Compares (candidates tables) (joinKeys q.joins) p
  aggregate : ∀ a ∈ q.aggregates, Aggregates (candidates tables) a
  projection : q.projection ⊆ (candidates tables).map (·.ref)
  groupBy_eq : q.groupBy = if q.aggregates.isEmpty then [] else q.projection
  hint : ∀ h ∈ q.hints, Hints tables q.joins h

/-- The tables of a query are those that its walk met. -/
theorem Drawn.tables_eq {s : Schema} {params : Parameters} {q : Query} {anchor : Table}
    {tables : List Table} (h : Drawn s params q anchor tables) :
    q.tables = tables.map (·.name) := by
  rw [h.walk.names_eq, Query.tables, h.source_eq]
  rfl

theorem always_drawn_queryOver {s : Schema} {params : Parameters} {anchor : Table}
    {tables : List Table} {joins : List Join} (ha : anchor ∈ s.tables.values)
    (hw : Walk s [anchor] tables joins)
    (hl : joins.length = joinLimit (.build s) params anchor) :
    (queryOver params anchor tables joins).Always fun q => Drawn s params q anchor tables := by
  refine (always_predicates _ _ _).bind fun predicates hp => ?_
  refine (always_aggregates _ _).bind fun aggregates hg => ?_
  refine (always_projection _ _).bind fun projection hr => ?_
  refine (always_hints _ _ _).bind fun hints ⟨index, join, hsplit, hh⟩ => ?_
  exact Draw.always_pure ⟨ha, hw, hl, rfl, rfl, hp.1, hg.1, hr, rfl, hsplit ▸ hh.hint⟩

/-- No more joins are asked for than there are other tables connected with the anchor. -/
theorem one_add_joinLimit_le {s : Schema} (params : Parameters) {anchor : Table}
    (h : anchor.name ∈ s.tables.keys) :
    1 + joinLimit (.build s) params anchor ≤ (JoinGraph.build s).reachableCount anchor.name := by
  have hself := JoinGraph.mem_reachable_self (g := .build s)
    (OrderedMap.contains_iff.2 (JoinGraph.keys_build s ▸ h))
  have hpos := List.length_pos_of_mem hself
  unfold joinLimit JoinGraph.reachableCount
  omega

/-- With a query that is drawn over a walk comes whatever always holds of one over its tables. -/
theorem always_drawn_and {s : Schema} (hs : s.WellKeyed) (params : Parameters)
    {P : List Table → Query → Prop}
    (hP : ∀ anchor tables joins, (queryOver params anchor tables joins).Always (P tables))
    (h : s.tables.values ≠ []) :
    (query s (.build s) params h).Always fun q =>
      ∃ anchor tables, Drawn s params q anchor tables ∧ P tables q := by
  refine (Draw.always_pick _ h).bind fun anchor ha => ?_
  have hkey := Schema.mem_tables_iff.2 ⟨anchor, hs.table?_name ha⟩
  have hwalk := always_walk_expand hs (joinLimit (.build s) params anchor) [anchor]
  have hlen := always_length_expand hs (List.mem_singleton_self anchor)
    (one_add_joinLimit_le params hkey)
  refine (hwalk.and hlen).bind ?_
  rintro ⟨tables, joins⟩ ⟨hw, hl⟩
  refine ((always_drawn_queryOver ha hw hl).and (hP anchor tables joins)).mono ?_
  exact fun q hq => ⟨anchor, tables, hq⟩

end SqlWorkload.Generation

namespace SqlWorkload.Generator

open SqlWorkload.Random

/-- A step draws a query and leaves schema, graph and parameters as they are. -/
theorem next?_eq_some {g g' : Generator} {q : Query} (h : g.next? = some (q, g')) :
    (∃ hne s, q = (Generation.query g.schema g.graph g.params hne s).1) ∧
      g'.schema = g.schema ∧ g'.graph = g.graph ∧ g'.params = g.params := by
  unfold next? at h
  split at h
  · contradiction
  · next hne =>
    split at h
    · contradiction
    · cases h
      exact ⟨⟨hne, g.stream, rfl⟩, rfl, rfl, rfl⟩

theorem forall_take {g : Generator} {P : Query → Prop}
    (hP : ∀ hne, (Generation.query g.schema g.graph g.params hne).Always P) (n : Nat) :
    ∀ q ∈ (take n g).1, P q := by
  induction n generalizing g with
  | zero => simp [take]
  | succ n ih =>
    rw [take]
    split
    · simp
    · next q g' hnext =>
      obtain ⟨⟨hne, s, rfl⟩, hschema, hgraph, hparams⟩ := next?_eq_some hnext
      intro x hx
      rcases List.mem_cons.1 hx with rfl | hx
      · exact hP hne s
      · refine ih (g := g') ?_ x hx
        rw [hschema, hgraph, hparams]
        exact hP

/-- What each query drawn has, all queries of the sequence have. -/
theorem forall_queries {g : Generator} {P : Query → Prop}
    (hP : ∀ hne, (Generation.query g.schema g.graph g.params hne).Always P) :
    ∀ q ∈ g.queries, P q :=
  forall_take hP _

theorem start_eq_ok_iff {s : Schema} {graph : JoinGraph} {p : Parameters} {g : Generator} :
    start s graph p = .ok g ↔ ∃ r, p.checked = .ok r ∧ ⟨s, graph, r, .ofSeed r.seed, 0⟩ = g := by
  rw [start, bind_eq_ok_iff]
  simp only [pure, Except.pure, Except.ok.injEq]

/-- A generator over a schema with tables has all its queries before it. -/
theorem remaining_start {s : Schema} {graph : JoinGraph} {p : Parameters} {g : Generator}
    (htables : s.isEmpty = false) (hg : start s graph p = .ok g) : g.remaining = p.numQueries := by
  obtain ⟨r, hr, rfl⟩ := start_eq_ok_iff.1 hg
  obtain ⟨-, rfl⟩ := Parameters.checked_eq_ok_iff.1 hr
  rw [remaining, if_neg (Schema.isEmpty_eq_false_iff.1 htables)]
  rfl

theorem length_queries (g : Generator) : g.queries.length = g.remaining := by
  rw [queries, length_take, Nat.min_self]

theorem queries_eq_nil {g : Generator} (h : g.remaining = 0) : g.queries = [] := by
  rw [queries, h, take]

theorem queries_of_next {g g' : Generator} {q : Query} (h : g.next? = some (q, g')) :
    g.queries = q :: g'.queries := by
  rw [queries, remaining_next h, take, h]
  rfl

theorem drawn_and_of_mem_queries {s : Schema} (hs : s.WellKeyed) {p : Parameters} {g : Generator}
    (hg : start s (.build s) p = .ok g) {P : List Table → Query → Prop}
    (hP : ∀ anchor tables joins,
      (Generation.queryOver p.clamped anchor tables joins).Always (P tables))
    {q : Query} (hq : q ∈ g.queries) :
    ∃ anchor tables, Generation.Drawn s p.clamped q anchor tables ∧ P tables q := by
  obtain ⟨r, hr, rfl⟩ := start_eq_ok_iff.1 hg
  obtain ⟨-, rfl⟩ := Parameters.checked_eq_ok_iff.1 hr
  exact forall_queries (Generation.always_drawn_and hs p.clamped hP) q hq

theorem drawn_of_mem_queries {s : Schema} (hs : s.WellKeyed) {p : Parameters} {g : Generator}
    (hg : start s (.build s) p = .ok g) {q : Query} (hq : q ∈ g.queries) :
    ∃ anchor tables, Generation.Drawn s p.clamped q anchor tables := by
  obtain ⟨anchor, tables, h, -⟩ :=
    drawn_and_of_mem_queries hs hg (P := fun _ _ => True) (fun _ _ _ _ => trivial) hq
  exact ⟨anchor, tables, h⟩

end SqlWorkload.Generator
