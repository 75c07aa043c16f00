import SqlWorkload.Generation.Generator
import SqlWorkload.Proofs.JoinGraph.Connectivity
import SqlWorkload.Proofs.Random.Results
/-!
# The walk of the joins

The joins of a query walk through the join graph. Each step takes an edge from a table that the walk
has met to one that it has not. On the graph of a schema whose tables are stored under their names
the walk never gets stuck before it has met every connected table.

    x ∈ frontier g tables ↔ x is an edge out of the tables, with its other end  (mem_frontier)
    the joins drawn are always a walk                             (always_walk_expand)
    there are as many as asked for, if so many tables are connected  (always_length_expand)
-/

namespace SqlWorkload.Generation

open SqlWorkload.Random

/-! ## Walks -/

/-- A walk over the tables of a schema, from the tables it begins with to all that it has met. Each
join adds a table that an edge leads to from a table met before. -/
inductive Walk (s : Schema) : List Table → List Table → List Join → Prop
  | stay (tables : List Table) : Walk s tables tables []
  | step {tables all : List Table} {joins : List Join} {u t : Table} {e : ForeignKeyEdge}
      (known : u ∈ tables) (edge : e ∈ s.foreignKeyEdges) (ends : e.Connects u.name t.name)
      (stored : s.table? t.name = some t) (fresh : t.name ∉ tables.map (·.name))
      (rest : Walk s (tables ++ [t]) all joins) : Walk s tables all (⟨t.name, e⟩ :: joins)

namespace Walk

variable {s : Schema} {tables all : List Table} {joins : List Join}

theorem names_eq (h : Walk s tables all joins) :
    all.map (·.name) = tables.map (·.name) ++ joins.map (·.table) := by
  induction h with
  | stay tables => simp
  | step _ _ _ _ _ _ ih => simpa using ih

theorem nodup_names (h : Walk s tables all joins) (hd : (tables.map (·.name)).Nodup) :
    (all.map (·.name)).Nodup := by
  induction h with
  | stay tables => exact hd
  | step _ _ _ _ fresh _ ih =>
    apply ih
    rw [List.map_append, List.map_singleton]
    refine List.nodup_append.2 ⟨hd, by simp, ?_⟩
    intro a ha b hb hab
    rw [List.mem_singleton] at hb
    exact fresh (hb ▸ hab ▸ ha)

theorem subset (h : Walk s tables all joins) : tables ⊆ all := by
  induction h with
  | stay tables => exact fun _ ht => ht
  | step _ _ _ _ _ _ ih => exact fun t ht => ih (List.mem_append_left _ ht)

/-- The tables met on the way are those of the schema. -/
theorem mem_values (h : Walk s tables all joins) (hs : ∀ t ∈ tables, t ∈ s.tables.values) :
    ∀ t ∈ all, t ∈ s.tables.values := by
  induction h with
  | stay tables => exact hs
  | step _ _ _ stored _ _ ih =>
    apply ih
    intro t ht
    rcases List.mem_append.1 ht with ht | ht
    · exact hs t ht
    · rw [List.mem_singleton] at ht
      exact ht ▸ Schema.mem_values_of_table? stored

/-- Each join follows a foreign key of the schema from one of the tables met before it. -/
theorem edge_at (h : Walk s tables all joins) (i : Nat) (hi : i < joins.length) :
    joins[i].edge ∈ s.foreignKeyEdges ∧
      ∃ t ∈ (all.map (·.name)).take (tables.length + i),
        joins[i].edge.Connects t joins[i].table := by
  induction h generalizing i with
  | stay tables => simp at hi
  | @step tables all joins u t e known edge ends _ _ rest ih =>
    cases i with
    | zero =>
      refine ⟨edge, u.name, ?_, ends⟩
      have hlen : tables.length = (tables.map (·.name)).length := by simp
      rw [Nat.add_zero, rest.names_eq, List.map_append, List.append_assoc, hlen, List.take_left]
      exact List.mem_map_of_mem known
    | succ i =>
      have hstep := ih i (by simpa using hi)
      rw [List.length_append, List.length_singleton, Nat.add_assoc, Nat.add_comm 1 i] at hstep
      simpa using hstep

/-- Both ends of the edge of a join are met. -/
theorem ends_mem (h : Walk s tables all joins) {j : Join} (hj : j ∈ joins) :
    j.edge.fromTable ∈ all.map (·.name) ∧ j.edge.toTable ∈ all.map (·.name) := by
  induction h with
  | stay tables => simp at hj
  | @step tables all joins u t e known _ ends _ _ rest ih =>
    rcases List.mem_cons.1 hj with rfl | hj
    · have hu := List.mem_map_of_mem (f := (·.name)) (rest.subset (List.mem_append_left _ known))
      have ht := List.mem_map_of_mem (f := (·.name))
        (rest.subset (List.mem_append_right tables (List.mem_singleton_self t)))
      rcases ends with ⟨h₁, h₂⟩ | ⟨h₁, h₂⟩
      · exact ⟨h₁ ▸ hu, h₂ ▸ ht⟩
      · exact ⟨h₁ ▸ ht, h₂ ▸ hu⟩
    · exact ih hj

/-- From the tables that the walk begins with, its joins lead to each that it meets. -/
theorem exists_path (h : Walk s tables all joins) {t : Table} (ht : t ∈ all) :
    ∃ u ∈ tables, Relation.ReflTransGen (fun a b => ∃ j ∈ joins, j.edge.Connects a b)
      u.name t.name := by
  induction h with
  | stay tables => exact ⟨t, ht, .refl⟩
  | @step tables all joins u v e known _ ends _ _ _ ih =>
    obtain ⟨w, hw, path⟩ := ih ht
    have path : Relation.ReflTransGen
        (fun a b => ∃ j ∈ ⟨v.name, e⟩ :: joins, j.edge.Connects a b) w.name t.name :=
      Relation.ReflTransGen.mono
        (fun a b ⟨j, hj, hab⟩ => ⟨j, List.mem_cons_of_mem _ hj, hab⟩) _ _ path
    rcases List.mem_append.1 hw with hw | hw
    · exact ⟨w, hw, path⟩
    · rw [List.mem_singleton] at hw
      subst hw
      exact ⟨u, known, .head ⟨_, List.mem_cons_self, ends⟩ path⟩

end Walk

/-! ## The joins drawn -/

theorem mem_frontier {g : JoinGraph} {tables : List Table} {e : ForeignKeyEdge} {name : String} :
    (e, name) ∈ frontier g tables ↔
      (∃ u ∈ tables, e ∈ g.neighbors u.name ∧ e.otherEnd u.name = name) ∧
        name ∉ tables.map (·.name) := by
  have hany : (!tables.any (·.name == name)) = true ↔ name ∉ tables.map (·.name) := by simp
  rw [frontier, List.mem_filter, hany, List.mem_flatMap]
  simp only [List.mem_map, Prod.mk.injEq]
  constructor
  · rintro ⟨⟨u, hu, d, hd, rfl, rfl⟩, hnew⟩
    exact ⟨⟨u, hu, hd, rfl⟩, hnew⟩
  · rintro ⟨⟨u, hu, he, rfl⟩, hnew⟩
    exact ⟨⟨u, hu, e, he, rfl, rfl⟩, hnew⟩

/-- As long as fewer tables are met than are connected, some edge leads out of them. -/
theorem frontier_ne_nil {g : JoinGraph} {tables : List Table} {anchor : Table}
    (ha : anchor ∈ tables) (hlt : tables.length < g.reachableCount anchor.name) :
    frontier g tables ≠ [] := by
  obtain ⟨v, hv, u, ⟨e, he, hu⟩, hnew⟩ :=
    JoinGraph.exists_edge_leaving (List.mem_map_of_mem (f := (·.name)) ha) (by simpa using hlt)
  obtain ⟨t, ht, rfl⟩ := List.mem_map.1 hv
  exact List.ne_nil_of_mem (mem_frontier.2 ⟨⟨t, ht, he, hu⟩, hnew⟩)

variable {s : Schema} (hs : s.WellKeyed)

include hs

/-- An edge out of the tables leads to a table of the schema. -/
theorem step_of_mem_frontier {tables : List Table} {e : ForeignKeyEdge} {name : String}
    (h : (e, name) ∈ frontier (.build s) tables) :
    ∃ u ∈ tables, ∃ t, s.table? name = some t ∧ t.name = name ∧ e ∈ s.foreignKeyEdges ∧
      e.Connects u.name name ∧ name ∉ tables.map (·.name) := by
  obtain ⟨⟨u, hu, he, rfl⟩, hnew⟩ := mem_frontier.1 h
  obtain ⟨-, hedge, htouch⟩ := JoinGraph.mem_neighbors_build.1 he
  have ends := ForeignKeyEdge.connects_otherEnd htouch
  have hkey : e.otherEnd u.name ∈ s.tables.keys := by
    obtain ⟨hfrom, hto⟩ := hs.ends_mem_keys hedge
    rcases ends with ⟨-, h⟩ | ⟨h, -⟩
    · exact h ▸ hto
    · exact h ▸ hfrom
  obtain ⟨t, ht⟩ := Schema.mem_tables_iff.1 hkey
  exact ⟨u, hu, t, ht, hs.name_eq ht, hedge, ends, hnew⟩

/-- What holds when the walk is stuck, and of a step with whatever comes after it, always holds of
the joins drawn. -/
theorem always_expand_succ {limit : Nat} {tables : List Table} {P : List Table × List Join → Prop}
    (stuck : frontier (.build s) tables = [] → P (tables, []))
    (step : ∀ u ∈ tables, ∀ (t : Table) (e : ForeignKeyEdge), e ∈ s.foreignKeyEdges →
      e.Connects u.name t.name → s.table? t.name = some t → t.name ∉ tables.map (·.name) →
      (expand s (.build s) limit (tables ++ [t])).Always fun r => P (r.1, ⟨t.name, e⟩ :: r.2)) :
    (expand s (.build s) (limit + 1) tables).Always P := by
  rw [expand]
  split
  · next h => exact Draw.always_pure (stuck h)
  · next h =>
    refine (Draw.always_pick _ h).bind ?_
    rintro ⟨e, name⟩ hx
    obtain ⟨u, hu, t, ht, rfl, hedge, ends, hnew⟩ := step_of_mem_frontier hs hx
    simp only [ht]
    refine (step u hu t e hedge ends ht hnew).bind ?_
    rintro ⟨all, joins⟩ hP
    exact Draw.always_pure hP

theorem always_walk_expand (limit : Nat) (tables : List Table) :
    (expand s (.build s) limit tables).Always fun r => Walk s tables r.1 r.2 := by
  induction limit generalizing tables with
  | zero => exact Draw.always_pure (.stay tables)
  | succ limit ih =>
    refine always_expand_succ hs (fun _ => .stay tables) ?_
    intro u hu t e hedge ends ht hnew
    exact (ih _).mono fun _ rest => .step hu hedge ends ht hnew rest

theorem always_length_expand {limit : Nat} {tables : List Table} {anchor : Table}
    (ha : anchor ∈ tables)
    (hle : tables.length + limit ≤ (JoinGraph.build s).reachableCount anchor.name) :
    (expand s (.build s) limit tables).Always fun r => r.2.length = limit := by
  induction limit generalizing tables with
  | zero => exact Draw.always_pure rfl
  | succ limit ih =>
    refine always_expand_succ hs (fun h => ?_) ?_
    · exact absurd h (frontier_ne_nil ha (by omega))
    · intro u _ t e _ _ _ _
      have hlen : (tables ++ [t]).length = tables.length + 1 := by simp
      refine (ih (List.mem_append_left _ ha) (by omega)).mono ?_
      intro r hr
      simp [hr]

end SqlWorkload.Generation
