import SqlWorkload.Proofs.Generation.Walk
import SqlWorkload.Proofs.JoinGraph.Edges
/-!
# The edges out of a walk

Each step of the walk of the joins picks from the edges that lead out of the tables met so far. They
are listed table by table, from the entries of the join graph; an edge stands in the entries of both
its ends, but only one of them has been met, so that it is listed once. Edges between tables that
have been met, and from a table to itself, are not listed.

    an edge out of a table is listed with its other end            (mem_frontier_build_iff)
    no edge is listed twice                                        (nodup_edges_frontier)
    the tables that a walk has met at any time are distinct tables of the schema  (Walk.take)
    a walk draws from the cut of the tables it has met, at each step once  (drawsOverCut_of_expand)
-/

namespace SqlWorkload

/-! ## Cuts -/

/-- One end of the edge is among the names, and the other, which is `next`, is not. -/
def ForeignKeyEdge.Leaves (e : ForeignKeyEdge) (names : List String) (next : String) : Prop :=
  e.fromTable ∈ names ∧ e.toTable ∉ names ∧ next = e.toTable ∨
    e.toTable ∈ names ∧ e.fromTable ∉ names ∧ next = e.fromTable

/-- The list has the foreign keys with exactly one end among the names, each of them once and with
its other end, and nothing else. -/
structure Schema.IsCut (s : Schema) (names : List String) (l : List (ForeignKeyEdge × String)) :
    Prop where
  mem_iff : ∀ e next, (e, next) ∈ l ↔ e ∈ s.foreignKeyEdges ∧ e.Leaves names next
  once : (l.map (·.1)).Nodup

namespace Generation

open SqlWorkload.Random

/-- From these tables the walk goes on by one pick from the edges that lead out of them, all of them
to tables of the schema; without such an edge it is over. -/
structure DrawsOverCut (s : Schema) (tables : List Table) : Prop where
  isCut : s.IsCut (tables.map (·.name)) (frontier (.build s) tables)
  step : ∀ (limit : Nat) (h : frontier (.build s) tables ≠ []),
    ∃ target : ForeignKeyEdge × String → Table,
      (∀ x ∈ frontier (.build s) tables, s.table? x.2 = some (target x) ∧ (target x).name = x.2) ∧
      expand s (.build s) (limit + 1) tables =
        Draw.pick (frontier (.build s) tables) h >>= fun x =>
          expand s (.build s) limit (tables ++ [target x]) >>= fun r =>
            pure (r.1, ⟨x.2, x.1⟩ :: r.2)
  stuck : ∀ limit, frontier (.build s) tables = [] →
    expand s (.build s) limit tables = pure (tables, [])

end Generation

/-! ## Edges and their ends -/

namespace ForeignKeyEdge

variable {e : ForeignKeyEdge} {names : List String} {t next : String}

theorem Connects.leaves (h : e.Connects t next) (ht : t ∈ names) (hnext : next ∉ names) :
    e.Leaves names next := by
  rcases h with ⟨rfl, rfl⟩ | ⟨rfl, rfl⟩
  · exact .inl ⟨ht, hnext, rfl⟩
  · exact .inr ⟨ht, hnext, rfl⟩

theorem Leaves.next_not_mem (h : e.Leaves names next) : next ∉ names := by
  rcases h with ⟨-, hto, rfl⟩ | ⟨-, hfrom, rfl⟩
  · exact hto
  · exact hfrom

/-- An edge leaves from one of the names. -/
theorem Leaves.exists_otherEnd (h : e.Leaves names next) :
    ∃ t ∈ names, e.touches t = true ∧ e.otherEnd t = next := by
  rcases h with ⟨hfrom, -, rfl⟩ | ⟨hto, hfrom, rfl⟩
  · exact ⟨_, hfrom, touches_iff.2 (.inl rfl), by simp [otherEnd]⟩
  · have hne : e.fromTable ≠ e.toTable := fun heq => hfrom (heq ▸ hto)
    exact ⟨_, hto, touches_iff.2 (.inr rfl), by simp [otherEnd, hne]⟩

/-- Two names that an edge touches are its ends. -/
theorem otherEnd_of_touches {u : String} (ht : e.touches t = true) (hu : e.touches u = true)
    (hne : t ≠ u) : e.otherEnd t = u := by
  rw [touches_iff] at ht hu
  unfold otherEnd
  grind

end ForeignKeyEdge

namespace Generation

open SqlWorkload.Random

variable {s : Schema} (hs : s.WellKeyed) {tables : List Table}

/-! ## The frontier -/

theorem frontier_eq_flatMap (g : JoinGraph) (tables : List Table) :
    frontier g tables = tables.flatMap fun t =>
      ((g.neighbors t.name).filter fun e =>
        !tables.any (·.name == e.otherEnd t.name)).map fun e => (e, e.otherEnd t.name) := by
  rw [frontier, List.filter_flatMap]
  refine List.flatMap_congr fun t _ => ?_
  rw [List.filter_map]
  rfl

include hs

theorem mem_frontier_build_iff {e : ForeignKeyEdge} {next : String} :
    (e, next) ∈ frontier (.build s) tables ↔
      e ∈ s.foreignKeyEdges ∧ e.Leaves (tables.map (·.name)) next := by
  rw [mem_frontier]
  constructor
  · rintro ⟨⟨u, hu, he, rfl⟩, hnew⟩
    obtain ⟨hedge, htouch⟩ := (JoinGraph.mem_neighbors_iff hs _ _).1 he
    exact ⟨hedge, (ForeignKeyEdge.connects_otherEnd htouch).leaves (List.mem_map_of_mem hu) hnew⟩
  · rintro ⟨hedge, hleaves⟩
    obtain ⟨name, hname, htouch, hend⟩ := hleaves.exists_otherEnd
    obtain ⟨u, hu, rfl⟩ := List.mem_map.1 hname
    exact ⟨⟨u, hu, (JoinGraph.mem_neighbors_iff hs _ _).2 ⟨hedge, htouch⟩, hend⟩,
      hleaves.next_not_mem⟩

/-- An edge that two tables list would lead from the one to the other, which has been met. -/
theorem nodup_edges_frontier (hd : (tables.map (·.name)).Nodup) :
    ((frontier (.build s) tables).map (·.1)).Nodup := by
  have hedges : (frontier (.build s) tables).map (·.1) = tables.flatMap fun t =>
      ((JoinGraph.build s).neighbors t.name).filter fun e =>
        !tables.any (·.name == e.otherEnd t.name) := by
    simp only [frontier_eq_flatMap, List.map_flatMap, List.map_map, Function.comp_def, List.map_id']
  rw [hedges, List.nodup_flatMap]
  refine ⟨fun t _ => ((JoinGraph.depicts hs).once t.name).filter _, ?_⟩
  refine (List.pairwise_map.1 hd).imp_of_mem fun {t u} ht hu hne e het heu => ?_
  obtain ⟨het, hfresh⟩ := List.mem_filter.1 het
  obtain ⟨heu, -⟩ := List.mem_filter.1 heu
  have hend : e.otherEnd t.name = u.name := ForeignKeyEdge.otherEnd_of_touches
    ((JoinGraph.mem_neighbors_iff hs _ _).1 het).2 ((JoinGraph.mem_neighbors_iff hs _ _).1 heu).2
    hne
  have hmet : tables.any (·.name == e.otherEnd t.name) = true :=
    List.any_eq_true.2 ⟨u, hu, by simp [hend]⟩
  simp [hmet] at hfresh

theorem isCut_frontier (hd : (tables.map (·.name)).Nodup) :
    s.IsCut (tables.map (·.name)) (frontier (.build s) tables) where
  mem_iff _ _ := mem_frontier_build_iff hs
  once := nodup_edges_frontier hs hd

/-! ## Steps -/

theorem drawsOverCut (hd : (tables.map (·.name)).Nodup) : DrawsOverCut s tables where
  isCut := isCut_frontier hs hd
  step limit h := by
    have htarget : ∀ x ∈ frontier (.build s) tables, ∃ t, s.table? x.2 = some t ∧ t.name = x.2 :=
      fun x hx => by
        obtain ⟨-, -, t, ht, hname, -⟩ := step_of_mem_frontier hs hx
        exact ⟨t, ht, hname⟩
    obtain ⟨x, hx⟩ := List.exists_mem_of_ne_nil _ h
    have : Nonempty Table := ⟨(htarget x hx).choose⟩
    choose! target htable hname using htarget
    refine ⟨target, fun x hx => ⟨htable x hx, hname x hx⟩, ?_⟩
    rw [expand, dif_neg h]
    refine (Draw.always_pick _ h).bind_congr fun x hx => ?_
    simp only [htable x hx, hname x hx]
  stuck limit h := by
    cases limit with
    | zero => rfl
    | succ limit => rw [expand, dif_pos h]

/-! ## Walks -/

omit hs in
/-- The tables met up to some step are tables of the schema under distinct names. -/
theorem Walk.take {all : List Table} {joins : List Join} (h : Walk s tables all joins)
    (hd : (tables.map (·.name)).Nodup) (hmem : ∀ t ∈ tables, t ∈ s.tables.values) (n : Nat) :
    ((all.take n).map (·.name)).Nodup ∧ ∀ t ∈ all.take n, t ∈ s.tables.values := by
  refine ⟨?_, fun t ht => h.mem_values hmem t (List.mem_of_mem_take ht)⟩
  exact (h.nodup_names hd).sublist ((List.take_sublist n all).map _)

/-- Each join is one of the edges out of the tables met before it. -/
theorem Walk.mem_frontier {all : List Table} {joins : List Join} (h : Walk s tables all joins)
    (hd : (tables.map (·.name)).Nodup) (i : Nat) (hi : i < joins.length) :
    (joins[i].edge, joins[i].table) ∈ frontier (.build s) (all.take (tables.length + i)) := by
  obtain ⟨hedge, t, ht, ends⟩ := h.edge_at i hi
  rw [mem_frontier_build_iff hs, List.map_take]
  refine ⟨hedge, ends.leaves ht fun hmet => ?_⟩
  have hdistinct := h.nodup_names hd
  rw [h.names_eq] at hdistinct hmet
  obtain ⟨j, hj, heq⟩ := List.mem_take_iff_getElem.1 hmet
  have hlength : tables.length + i < (tables.map (·.name) ++ joins.map (·.table)).length := by
    simp only [List.length_append, List.length_map]
    omega
  have hjoined : (tables.map (·.name) ++ joins.map (·.table))[tables.length + i] =
      joins[i].table := by
    rw [List.getElem_append_right (by simp)]
    simp
  rw [← hjoined, hdistinct.getElem_inj_iff] at heq
  omega

/-- From distinct tables of a schema, the walk draws at each step once from the edges that lead out
of the tables it has met, and what it draws is its next join. -/
theorem drawsOverCut_of_expand (hd : (tables.map (·.name)).Nodup)
    (hmem : ∀ t ∈ tables, t ∈ s.tables.values) (limit : Nat) :
    DrawsOverCut s tables ∧
      (expand s (.build s) limit tables).Always fun r => ∀ n ≤ r.2.length,
        DrawsOverCut s (r.1.take (tables.length + n)) ∧
          ∀ h : n < r.2.length,
            (r.2[n].edge, r.2[n].table) ∈ frontier (.build s) (r.1.take (tables.length + n)) := by
  refine ⟨drawsOverCut hs hd, (always_walk_expand hs limit tables).mono fun r hwalk n _ => ?_⟩
  exact ⟨drawsOverCut hs (hwalk.take hd hmem _).1, fun h => hwalk.mem_frontier hs hd n h⟩

open JoinGraph (offices)

omit hs in
/-- Two foreign keys lead from `people` to `rooms` and one leads back; one stays in `people`. Each of
the three is listed once, and none once both tables have been met. -/
theorem drawsOverCut_of_expand_offices :
    offices.WellKeyed ∧ ∃ t ∈ offices.tables.values, t.name = "people" ∧
      (frontier (.build offices) [t]).map (fun x => (x.1.fromColumn, x.2)) =
        [("home", "rooms"), ("work", "rooms"), ("owner", "rooms")] ∧
      DrawsOverCut offices [t] ∧
      ∃ all joins, (expand offices (.build offices) 2 [t] (.ofSeed 7)).1 = (all, joins) ∧
        joins.length = 1 ∧ frontier (.build offices) (all.take 2) = [] ∧
        DrawsOverCut offices (all.take 2) := by
  have hs : offices.WellKeyed := Schema.wellKeyed_analyzed _ _ _
  have ht : ∃ t ∈ offices.tables.values, t.name = "people" ∧
      (frontier (.build offices) [t]).map (fun x => (x.1.fromColumn, x.2)) =
        [("home", "rooms"), ("work", "rooms"), ("owner", "rooms")] ∧
      (expand offices (.build offices) 2 [t] (.ofSeed 7)).1.2.length = 1 ∧
      frontier (.build offices)
        ((expand offices (.build offices) 2 [t] (.ofSeed 7)).1.1.take 2) = [] := by
    decide +kernel
  obtain ⟨t, ht, hname, hfrontier, hlength, hstuck⟩ := ht
  have hd : ([t].map (·.name)).Nodup := List.nodup_singleton _
  obtain ⟨hdraws, hwalk⟩ := drawsOverCut_of_expand hs hd (by simpa using ht) 2
  obtain ⟨hmet, -⟩ := hwalk (.ofSeed 7) 1 (Nat.le_of_eq hlength.symm)
  exact ⟨hs, t, ht, hname, hfrontier, hdraws, _, _, rfl, hlength, hstuck, hmet⟩

end Generation

end SqlWorkload
