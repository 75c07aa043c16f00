import SqlWorkload.JoinGraph
/-!
# The edges at a table

Which foreign keys the join graph of a schema has at a table: those that touch it, at both of their
ends. In a schema whose tables are stored under their names both ends are tables of the schema.

    e ∈ (build s).neighbors t ↔ t is a table of s, and e a foreign key of s that touches t
                                                                  (mem_neighbors_build)
    e ∈ s.foreignKeyEdges → both ends of e are tables of s        (ends_mem_keys)
-/

namespace SqlWorkload

namespace ForeignKeyEdge

theorem touches_iff {e : ForeignKeyEdge} {t : String} :
    e.touches t = true ↔ e.fromTable = t ∨ e.toTable = t := by
  simp [touches]

/-- The two tables are the ends of the edge. -/
def Connects (e : ForeignKeyEdge) (t u : String) : Prop :=
  e.fromTable = t ∧ e.toTable = u ∨ e.fromTable = u ∧ e.toTable = t

theorem Connects.symm {e : ForeignKeyEdge} {t u : String} (h : e.Connects t u) : e.Connects u t :=
  Or.symm h

theorem connects_otherEnd {e : ForeignKeyEdge} {t : String} (h : e.touches t = true) :
    e.Connects t (e.otherEnd t) := by
  rw [touches_iff] at h
  unfold otherEnd Connects
  grind

end ForeignKeyEdge

namespace JoinGraph

theorem mem_neighbors {g : JoinGraph} {t : String} {e : ForeignKeyEdge} :
    e ∈ g.neighbors t ↔ ∃ edges, g.adjacency.get? t = some edges ∧ e ∈ edges.toList := by
  unfold neighbors
  cases g.adjacency.get? t <;> simp

theorem mem_neighbors_addAt {g : JoinGraph} {t u : String} {d e : ForeignKeyEdge} :
    e ∈ (g.addAt t d).neighbors u ↔
      e ∈ g.neighbors u ∨ t = u ∧ e = d ∧ u ∈ g.adjacency.keys := by
  rw [mem_neighbors, mem_neighbors, addAt, OrderedMap.get?_modify, OrderedMap.mem_keys_iff]
  by_cases h : t = u
  · cases g.adjacency.get? u <;> simp [h, or_comm]
  · simp [h]

theorem mem_neighbors_addEdge {g : JoinGraph} {u : String} {d e : ForeignKeyEdge} :
    e ∈ (g.addEdge d).neighbors u ↔
      e ∈ g.neighbors u ∨ e = d ∧ d.touches u = true ∧ u ∈ g.adjacency.keys := by
  have hk : (g.addAt d.toTable d).adjacency.keys = g.adjacency.keys := by simp [addAt]
  rw [addEdge, mem_neighbors_addAt, mem_neighbors_addAt, hk, ForeignKeyEdge.touches_iff]
  grind

theorem neighbors_ofTables (tables : NameMap Table) (t : String) :
    (ofTables tables).neighbors t = [] := by
  unfold neighbors ofTables
  rw [OrderedMap.get?_mapValues]
  cases tables.get? t <;> rfl

/-- An edge stands at a table of the schema exactly if it is a foreign key that touches it. -/
theorem mem_neighbors_build {s : Schema} {t : String} {e : ForeignKeyEdge} :
    e ∈ (build s).neighbors t ↔
      t ∈ s.tables.keys ∧ e ∈ s.foreignKeyEdges ∧ e.touches t = true := by
  have (edges : List ForeignKeyEdge) (g : JoinGraph) :
      e ∈ (edges.foldl addEdge g).neighbors t ↔
        e ∈ g.neighbors t ∨ t ∈ g.adjacency.keys ∧ e ∈ edges ∧ e.touches t = true := by
    induction edges generalizing g with
    | nil => simp
    | cons d rest ih =>
      rw [List.foldl_cons, ih, mem_neighbors_addEdge, keys_addEdge]
      grind
  rw [build, this, neighbors_ofTables, ofTables, OrderedMap.keys_mapValues]
  simp

end JoinGraph

namespace Schema

theorem mem_tables_iff {s : Schema} {name : String} :
    name ∈ s.tables.keys ↔ ∃ t, s.table? name = some t :=
  OrderedMap.mem_keys_iff

theorem isEmpty_eq_false_iff {s : Schema} : s.isEmpty = false ↔ s.tables.values ≠ [] := by
  simp [isEmpty, OrderedMap.isEmpty, OrderedMap.values]

theorem mem_values_of_table? {s : Schema} {name : String} {t : Table}
    (h : s.table? name = some t) : t ∈ s.tables.values :=
  OrderedMap.mem_values_iff.2 ⟨name, h⟩

/-- In a schema with its tables under their names, a table is found by its name. -/
theorem WellKeyed.name_eq {s : Schema} (hs : s.WellKeyed) {name : String} {t : Table}
    (h : s.table? name = some t) : t.name = name :=
  (hs (name, t) (OrderedMap.mem_entries_iff.2 h)).symm

theorem WellKeyed.table?_name {s : Schema} (hs : s.WellKeyed) {t : Table}
    (h : t ∈ s.tables.values) : s.table? t.name = some t := by
  obtain ⟨name, h⟩ := OrderedMap.mem_values_iff.1 h
  exact (hs.name_eq h).symm ▸ h

theorem WellKeyed.ends_mem_keys {s : Schema} (hs : s.WellKeyed) {e : ForeignKeyEdge}
    (h : e ∈ s.foreignKeyEdges) : e.fromTable ∈ s.tables.keys ∧ e.toTable ∈ s.tables.keys := by
  obtain ⟨t, ht, c, -, h⟩ := mem_foreignKeyEdges.1 h
  obtain ⟨target, -, ⟨u, hu, -⟩, rfl⟩ := edge?_eq_some_iff.1 h
  exact ⟨mem_tables_iff.2 ⟨t, hs.table?_name ht⟩, mem_tables_iff.2 ⟨u, hu⟩⟩

end Schema

end SqlWorkload
