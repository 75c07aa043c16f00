import SqlWorkload.Proofs.Generation.JoinTree
import SqlWorkload.Proofs.Generation.Resemblance
/-!
# The limits of a workload

How many queries there are to be, and how many tables a query may join, are limits and nothing
more. No draw depends on the number of queries, so that it only says where the sequence ends. The
bound on joins makes no difference once it is as large as the number of all other tables: no walk
can be longer.

    queries are drawn alike under other limits, if as many joins come of them
                                                                  (query_withLimits)
    no more tables are connected than the schema has              (reachableCount_build_le)
    fewer queries are the first ones of more                      (queries_eq_take_of_le)
    all bounds on joins that every walk stays within are alike    (queries_eq_of_size_le)
-/

namespace SqlWorkload

/-! ## Other limits -/

def Parameters.withLimits (p : Parameters) (numQueries maxJoins : Nat) : Parameters :=
  { p with numQueries, maxJoins }

/-- The same generator with other limits. -/
def Generator.withLimits (g : Generator) (numQueries maxJoins : Nat) : Generator :=
  { g with params := g.params.withLimits numQueries maxJoins }

theorem Parameters.checked_withLimits {p r : Parameters} (h : p.checked = .ok r) {n : Nat}
    (hn : 0 < n) (k : Nat) : (p.withLimits n k).checked = .ok (r.withLimits n k) := by
  obtain ⟨⟨-, hvalid⟩, rfl⟩ := checked_eq_ok_iff.1 h
  exact checked_eq_ok_iff.2 ⟨⟨hn, hvalid⟩, rfl⟩

namespace Generation

/-! ## Draws -/

theorem indexHints_congr {p r : Parameters}
    (hindex : p.indexHintProbability = r.indexHintProbability)
    (hno : p.noIndexHintProbability = r.noIndexHintProbability) (tables : List Table) :
    indexHints p tables = indexHints r tables := by
  induction tables with
  | nil => rfl
  | cons t rest ih =>
    rw [indexHints, indexHints, ih, indexHint, indexHint, hindex, hno]

variable (p : Parameters) (n k : Nat)

theorem queryOver_withLimits (anchor : Table) (tables : List Table) (joins : List Join) :
    queryOver (p.withLimits n k) anchor tables joins = queryOver p anchor tables joins := by
  have hindex : indexHints (p.withLimits n k) tables = indexHints p tables :=
    indexHints_congr (p := p.withLimits n k) (r := p) rfl rfl tables
  unfold queryOver hints
  rw [hindex]
  rfl

/-- Of the limits only the number of joins that may be drawn from an anchor has a part in a query. -/
theorem query_withLimits {s : Schema} {graph : JoinGraph}
    (h : ∀ anchor, joinLimit graph (p.withLimits n k) anchor = joinLimit graph p anchor)
    (hne : s.tables.values ≠ []) :
    query s graph (p.withLimits n k) hne = query s graph p hne := by
  unfold query
  simp only [h, queryOver_withLimits]

end Generation

/-! ## Connected tables -/

/-- Both ends of an edge are tables of the schema, so that a search stays among them. -/
theorem JoinGraph.reachableCount_build_le {s : Schema} (hs : s.WellKeyed) (t : String) :
    (build s).reachableCount t ≤ s.tables.size := by
  have hsub : (build s).reachable t ⊆ s.tables.keys := by
    intro u hu
    obtain ⟨ht, path⟩ := mem_reachable_iff.1 hu
    rw [keys_build] at ht
    cases path with
    | refl => exact ht
    | tail _ hvu =>
      obtain ⟨e, he, rfl⟩ := hvu
      obtain ⟨-, hedge, htouch⟩ := mem_neighbors_build.1 he
      obtain ⟨hfrom, hto⟩ := hs.ends_mem_keys hedge
      rcases ForeignKeyEdge.connects_otherEnd htouch with ⟨-, hend⟩ | ⟨hend, -⟩
      · exact hend ▸ hto
      · exact hend ▸ hfrom
  have hle := (nodup_reachable (build s) t).length_le_of_subset hsub
  rwa [OrderedMap.length_keys] at hle

theorem Generation.joinLimit_of_size_le {s : Schema} (hs : s.WellKeyed) {p : Parameters}
    (h : s.tables.size - 1 ≤ p.maxJoins) (anchor : Table) :
    joinLimit (.build s) p anchor = (JoinGraph.build s).reachableCount anchor.name - 1 := by
  have hcount := JoinGraph.reachableCount_build_le hs anchor.name
  unfold joinLimit
  omega

namespace Generator

/-! ## Sequences -/

theorem start_withLimits {s : Schema} {graph : JoinGraph} {p : Parameters} {g : Generator}
    (hg : start s graph p = .ok g) {n : Nat} (hn : 0 < n) (k : Nat) :
    start s graph (p.withLimits n k) = .ok (g.withLimits n k) := by
  obtain ⟨r, hr, rfl⟩ := start_eq_ok_iff.1 hg
  exact start_eq_ok_iff.2 ⟨_, Parameters.checked_withLimits hr hn k, rfl⟩

theorem remaining_of_isEmpty {s : Schema} {graph : JoinGraph} {p : Parameters} {g : Generator}
    (htables : s.isEmpty = true) (hg : start s graph p = .ok g) : g.remaining = 0 := by
  obtain ⟨r, -, rfl⟩ := start_eq_ok_iff.1 hg
  refine if_pos (Classical.byContradiction fun hne => ?_)
  rw [Schema.isEmpty_eq_false_iff.2 hne] at htables
  contradiction

theorem remaining_le {s : Schema} {graph : JoinGraph} {p : Parameters} {g : Generator}
    (hg : start s graph p = .ok g) : g.remaining ≤ p.numQueries := by
  cases htables : s.isEmpty with
  | true => exact remaining_of_isEmpty htables hg ▸ Nat.zero_le _
  | false => exact Nat.le_of_eq (remaining_start htables hg)

theorem lt_of_remaining_pos {g : Generator} (h : 0 < g.remaining) :
    g.schema.tables.values ≠ [] ∧ g.emitted < g.params.numQueries := by
  unfold remaining at h
  split at h
  · omega
  · next hne => exact ⟨hne, by omega⟩

/-- A part of the first queries is what a generator asked for fewer gives. -/
theorem take_take (m n : Nat) (g : Generator) :
    (take m g).1.take n = (take (min n m) g).1 := by
  induction m generalizing n g with
  | zero => simp [take]
  | succ m ih =>
    cases n with
    | zero => simp [take]
    | succ n =>
      rw [Nat.succ_min_succ]
      unfold take
      cases g.next? with
      | none => rfl
      | some x => exact congrArg (x.1 :: ·) (ih n x.2)

/-! ## Other parameters -/

/-- The same generator under other parameters. -/
def withParams (g : Generator) (r : Parameters) : Generator := { g with params := r }

section

variable {g : Generator} {r : Parameters}
  (hquery : ∀ hne, Generation.query g.schema g.graph r hne =
    Generation.query g.schema g.graph g.params hne)

include hquery

/-- One step under both parameters: the same query, and the same of the stream left. -/
theorem next?_withParams {g' : Generator} {q : Query} (h : g.next? = some (q, g'))
    (hmore : 0 < (g.withParams r).remaining) :
    (g.withParams r).next? = some (q, g'.withParams r) := by
  obtain ⟨hne, hlt⟩ := lt_of_remaining_pos hmore
  have hpos : 0 < g.remaining := remaining_next h ▸ Nat.succ_pos _
  rw [@next?_of_query g hne _ rfl (lt_of_remaining_pos hpos).2] at h
  cases h
  exact next?_of_query (g := g.withParams r) (congrFun (hquery hne) g.stream) hlt

/-- The two sequences go on side by side as long as neither has come to its end. -/
theorem take_withParams {count : Nat} (h : count ≤ g.remaining)
    (h' : count ≤ (g.withParams r).remaining) :
    (take count (g.withParams r)).1 = (take count g).1 := by
  induction count generalizing g with
  | zero => rfl
  | succ count ih =>
    cases hnext : g.next? with
    | none =>
      have hzero := next?_eq_none_iff.1 hnext
      omega
    | some x =>
      obtain ⟨q, g'⟩ := x
      have hnext' := next?_withParams hquery hnext (by omega)
      have hleft := remaining_next hnext
      have hleft' := remaining_next hnext'
      obtain ⟨-, hschema, hgraph, hparams⟩ := next?_eq_some hnext
      have hrest := ih (g := g') (by rw [hschema, hgraph, hparams]; exact hquery) (by omega)
        (by omega)
      simp only [take, hnext, hnext', hrest]

theorem queries_eq_take_withParams (hle : g.remaining ≤ (g.withParams r).remaining) :
    g.queries = (g.withParams r).queries.take g.remaining := by
  rw [queries, queries, take_take, Nat.min_eq_left hle, take_withParams hquery (Nat.le_refl _) hle]

theorem queries_withParams (h : r.numQueries = g.params.numQueries) :
    (g.withParams r).queries = g.queries := by
  have hremaining : (g.withParams r).remaining = g.remaining := by
    unfold remaining
    rw [← h]
    rfl
  rw [queries, queries, hremaining,
    take_withParams hquery (Nat.le_refl _) (Nat.le_of_eq hremaining.symm)]

end

/-! ## More queries, more joins -/

variable {s : Schema} {graph : JoinGraph} {p r : Parameters}

/-- The whole way from parameters to queries: more queries have the fewer as their first ones, if
as many joins may be drawn. -/
theorem exists_queries_eq_take (hp : p.checked = .ok r) {n k : Nat} (hn : p.numQueries ≤ n)
    (hjoins : ∀ anchor, Generation.joinLimit graph (p.withLimits n k) anchor =
      Generation.joinLimit graph p anchor) :
    ∃ g g', start s graph p = .ok g ∧ start s graph (p.withLimits n k) = .ok g' ∧
      g.queries = g'.queries.take p.numQueries := by
  obtain ⟨⟨hpos, -⟩, rfl⟩ := Parameters.checked_eq_ok_iff.1 hp
  obtain ⟨g, hg⟩ : ∃ g, start s graph p = .ok g := ⟨_, start_eq_ok_iff.2 ⟨_, hp, rfl⟩⟩
  have hg' := start_withLimits hg (Nat.lt_of_lt_of_le hpos hn) k
  refine ⟨g, g.withLimits n k, hg, hg', ?_⟩
  have hquery : ∀ hne, Generation.query g.schema g.graph (g.params.withLimits n k) hne =
      Generation.query g.schema g.graph g.params hne := by
    obtain ⟨_, hchecked, rfl⟩ := start_eq_ok_iff.1 hg
    obtain ⟨-, rfl⟩ := Parameters.checked_eq_ok_iff.1 hchecked
    exact Generation.query_withLimits p.clamped n k hjoins
  cases htables : s.isEmpty with
  | true =>
    rw [queries_eq_nil (remaining_of_isEmpty htables hg),
      queries_eq_nil (remaining_of_isEmpty htables hg'), List.take_nil]
  | false =>
    have hremaining := remaining_start htables hg
    have hremaining' : (g.withLimits n k).remaining = n := remaining_start htables hg'
    have hle : g.remaining ≤ (g.withLimits n k).remaining := by omega
    rw [← hremaining]
    exact queries_eq_take_withParams hquery hle

/-- Nothing of a query, and nothing of what is left of the stream after it, tells how many queries
were asked for. -/
theorem queries_eq_take_of_le (hp : p.checked = .ok r) {m : Nat} (hm : p.numQueries ≤ m) :
    ∃ g g', start s graph p = .ok g ∧ start s graph { p with numQueries := m } = .ok g' ∧
      g.queries = g'.queries.take p.numQueries :=
  exists_queries_eq_take hp hm fun _ => rfl

theorem queries_eq_take_of_le_staff :
    Parameters.checked (.plain 2 7) = .ok (.plain 2 7) ∧ 2 ≤ 5 ∧
      ∃ g g', start staff (.build staff) (.plain 2 7) = .ok g ∧
        start staff (.build staff) (.plain 5 7) = .ok g' ∧ g.queries = g'.queries.take 2 := by
  have hp : Parameters.checked (.plain 2 7) = .ok (.plain 2 7) :=
    Parameters.checked_eq_ok_iff.2 ⟨by decide, by decide⟩
  exact ⟨hp, by decide, queries_eq_take_of_le hp (by decide)⟩

/-- With as many joins allowed as there are other tables, every query joins all that are connected,
whatever the bound. -/
theorem queries_eq_of_size_le (hs : s.WellKeyed) (hp : p.checked = .ok r) {k : Nat}
    (hsize : s.tables.size - 1 ≤ p.maxJoins) (hsize' : s.tables.size - 1 ≤ k) :
    ∃ g g', start s (.build s) p = .ok g ∧ start s (.build s) { p with maxJoins := k } = .ok g' ∧
      g.queries = g'.queries ∧
      ∀ q ∈ g.queries, q.joins.length = (JoinGraph.build s).reachableCount q.source - 1 := by
  have hjoins (anchor : Table) :
      Generation.joinLimit (.build s) (p.withLimits p.numQueries k) anchor =
        Generation.joinLimit (.build s) p anchor := by
    rw [Generation.joinLimit_of_size_le hs hsize, Generation.joinLimit_of_size_le hs hsize']
  obtain ⟨g, g', hg, hg', hqueries⟩ := exists_queries_eq_take hp (Nat.le_refl _) hjoins
  refine ⟨g, g', hg, hg', ?_, ?_⟩
  · rw [hqueries, List.take_of_length_le]
    rw [length_queries]
    have hle : g'.remaining ≤ (p.withLimits p.numQueries k).numQueries := remaining_le hg'
    exact hle
  · intro q hq
    obtain ⟨anchor, tables, hdrawn⟩ := drawn_of_mem_queries hs hg hq
    rw [hdrawn.length_joins, hdrawn.source_eq]
    exact Generation.joinLimit_of_size_le hs hsize anchor

/-- Parameters that let a query join all the others of four tables. -/
def joiningAll : Parameters := { numQueries := 3, maxJoins := 3, seed := 7 }

theorem queries_eq_of_size_le_staff :
    staff.WellKeyed ∧ joiningAll.checked = .ok joiningAll ∧
      staff.tables.size - 1 ≤ joiningAll.maxJoins ∧
      ∃ g g', start staff (.build staff) joiningAll = .ok g ∧
        start staff (.build staff) { joiningAll with maxJoins := 18446744073709551615 } = .ok g' ∧
        g.queries = g'.queries ∧
        ∀ q ∈ g.queries, q.joins.length =
          (JoinGraph.build staff).reachableCount q.source - 1 := by
  have hs : staff.WellKeyed := Schema.wellKeyed_analyzed _ _ _
  have hp : joiningAll.checked = .ok joiningAll :=
    Parameters.checked_eq_ok_iff.2 ⟨by decide +kernel, by decide +kernel⟩
  have hsize : staff.tables.size - 1 ≤ joiningAll.maxJoins := by decide +kernel
  exact ⟨hs, hp, hsize, queries_eq_of_size_le hs hp hsize (by decide +kernel)⟩

end Generator

end SqlWorkload
