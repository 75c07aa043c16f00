import SqlWorkload.Proofs.Generation.Queries
/-!
# The tree of the joins

The joins of every query form a tree that is rooted at the table from which the query starts. It
grows as far as the parameters allow and there are connected tables, so that a query is never left
with fewer joins because its walk got stuck.

    q ∈ g.queries → q.JoinTree s, and q has as many joins as the limit and the tables connected
    with its first one allow                                      (joinTree_of_mem_queries)
-/

namespace SqlWorkload

/-- The joins connect distinct tables of a schema, each with one of those before it, so that a path
of joins leads to every table from the first. -/
structure Query.JoinTree (s : Schema) (q : Query) : Prop where
  nodup : q.tables.Nodup
  stored : ∀ t ∈ q.tables, t ∈ s.tables.keys
  parent : ∀ (i : Nat) (h : i < q.joins.length), q.joins[i].edge ∈ s.foreignKeyEdges ∧
    ∃ t ∈ q.tables.take (i + 1), q.joins[i].edge.Connects t q.joins[i].table
  path : ∀ t ∈ q.tables,
    Relation.ReflTransGen (fun a b => ∃ j ∈ q.joins, j.edge.Connects a b) q.source t

namespace Generation

variable {s : Schema} {params : Parameters} {q : Query} {anchor : Table} {tables : List Table}

theorem Drawn.mem_values (h : Drawn s params q anchor tables) :
    ∀ t ∈ tables, t ∈ s.tables.values := by
  apply h.walk.mem_values
  intro t ht
  rw [List.mem_singleton] at ht
  exact ht ▸ h.anchor_mem

theorem Drawn.joinTree (hs : s.WellKeyed) (h : Drawn s params q anchor tables) :
    q.JoinTree s where
  nodup := by
    rw [h.tables_eq]
    exact h.walk.nodup_names (by simp)
  stored := by
    intro name hname
    rw [h.tables_eq] at hname
    obtain ⟨t, ht, rfl⟩ := List.mem_map.1 hname
    exact Schema.mem_tables_iff.2 ⟨t, hs.table?_name (h.mem_values t ht)⟩
  parent := by
    intro i hi
    rw [h.tables_eq, Nat.add_comm]
    exact h.walk.edge_at i hi
  path := by
    intro name hname
    rw [h.tables_eq] at hname
    obtain ⟨t, ht, rfl⟩ := List.mem_map.1 hname
    obtain ⟨u, hu, path⟩ := h.walk.exists_path ht
    rw [List.mem_singleton] at hu
    rw [h.source_eq, ← hu]
    exact path

end Generation

namespace Generator

theorem joinTree_of_mem_queries {s : Schema} (hs : s.WellKeyed) {p : Parameters} {g : Generator}
    (hg : start s (.build s) p = .ok g) {q : Query} (hq : q ∈ g.queries) :
    q.JoinTree s ∧
      q.joins.length = min p.maxJoins ((JoinGraph.build s).reachableCount q.source - 1) := by
  obtain ⟨anchor, tables, h⟩ := drawn_of_mem_queries hs hg hq
  refine ⟨h.joinTree hs, ?_⟩
  rw [h.length_joins, h.source_eq]
  rfl

/-- Two tables that refer to each other and one that refers to itself. -/
def staff : Schema :=
  let id : Column := { name := "id", dataType := "integer" }
  let key (name table : String) : Column :=
    { name, dataType := "integer", references := some ⟨table, "id"⟩ }
  .analyzed "staff"
    [{ name := "offices", space := "public", columns := [id, key "head" "people"] },
      { name := "people", space := "public",
        columns := [id, key "boss" "people", key "home" "offices", key "work" "offices"] },
      { name := "rooms", space := "public", columns := [id, key "office" "offices"] },
      { name := "logs", space := "public", columns := [id] }]
    (.newYear 2024)

theorem joinTree_of_mem_queries_staff :
    staff.WellKeyed ∧ ∃ g, start staff (.build staff) (.plain 2 7) = .ok g ∧
      ∃ q ∈ g.queries, q.tables = ["people", "offices", "rooms"] ∧ q.JoinTree staff ∧
        q.joins.length = min 10 ((JoinGraph.build staff).reachableCount q.source - 1) := by
  have hs : staff.WellKeyed := Schema.wellKeyed_analyzed _ _ _
  have hg : start staff (.build staff) (.plain 2 7) =
      .ok ⟨staff, .build staff, .plain 2 7, .ofSeed 7, 0⟩ :=
    start_eq_ok_iff.2 ⟨.plain 2 7, Parameters.checked_eq_ok_iff.2 ⟨by decide, by decide⟩, rfl⟩
  have hq : ∃ q ∈ queries ⟨staff, .build staff, .plain 2 7, .ofSeed 7, 0⟩,
      q.tables = ["people", "offices", "rooms"] := by decide +kernel
  obtain ⟨q, hq, ht⟩ := hq
  obtain ⟨tree, length⟩ := joinTree_of_mem_queries hs hg hq
  exact ⟨hs, _, hg, q, hq, ht, tree, length⟩

end Generator

end SqlWorkload
