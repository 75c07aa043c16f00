import Mathlib.Data.List.Dedup
import SqlWorkload.Proofs.JoinGraph.Connectivity
/-!
# The edges of a graph

What the join graph of a schema tells of the schema. It has an entry for each table, and in the
entry the foreign keys at that table, each once; both columns of a foreign key exist. A column that
is dropped takes with it the foreign keys that it has and those that refer to it, and no others.

    the graph of a schema depicts it                              (depicts_build)
    e is a foreign key without the column ↔ e is one with it, and the column is no end of e
                                                                  (mem_foreignKeyEdges_drop)
-/

namespace SqlWorkload

namespace OrderedSet

variable {κ : Type} [Ord κ] [DecidableEq κ] [Std.TransOrd κ] [Std.LawfulEqOrd κ]

omit [DecidableEq κ] [Std.TransOrd κ] [Std.LawfulEqOrd κ] in
theorem nodup_of_sorted [Std.ReflOrd κ] {l : List κ}
    (h : l.Pairwise fun a b => compare a b = .lt) : l.Nodup :=
  h.imp fun hlt heq => by simp [heq] at hlt

/-- A set made of a list has as many members as the list has different elements. -/
theorem size_ofList {l m : List κ} (h : ∀ x, x ∈ l ↔ x ∈ m) :
    (ofList l).size = m.dedup.length := by
  have hnodup : (ofList l).toList.Nodup := nodup_of_sorted (ofList l).sorted_keys
  have hperm : (ofList l).toList.Perm m.dedup := by
    rw [List.perm_ext_iff_of_nodup hnodup m.nodup_dedup]
    intro x
    rw [mem_ofList, List.mem_dedup, h]
  rw [← OrderedMap.length_keys]
  exact hperm.length_eq

omit [DecidableEq κ] [Std.LawfulEqOrd κ] in
/-- Lists in strict order are the same if they have the same elements. -/
theorem eq_of_sorted {l m : List κ} (hl : l.Pairwise fun a b => compare a b = .lt)
    (hm : m.Pairwise fun a b => compare a b = .lt) (h : ∀ x, x ∈ l ↔ x ∈ m) : l = m := by
  have hperm : l.Perm m :=
    (List.perm_ext_iff_of_nodup (nodup_of_sorted hl) (nodup_of_sorted hm)).2 h
  refine hperm.eq_of_pairwise (fun a b _ _ hab hba => ?_) hl hm
  exact absurd hba (Std.OrientedCmp.not_lt_of_lt hab)

end OrderedSet

/-! ## Definitions -/

/-- Some table of the schema has that name, and a column of that name. -/
def Schema.HasColumn (s : Schema) (r : ColumnRef) : Prop :=
  ∃ t, s.table? r.table = some t ∧ ∃ c ∈ t.columns, c.name = r.column

/-- The graph has an entry for each table of the schema, and in it the foreign keys at the table. -/
structure JoinGraph.Depicts (g : JoinGraph) (s : Schema) : Prop where
  keys : g.adjacency.keys = s.tables.keys
  mem_iff : ∀ t e, e ∈ g.neighbors t ↔ e ∈ s.foreignKeyEdges ∧ e.touches t = true
  once : ∀ t, (g.neighbors t).Nodup
  columns : ∀ t, ∀ e ∈ g.neighbors t, s.HasColumn e.fromRef ∧ s.HasColumn e.toRef
  edgeCount : g.edgeCount = s.foreignKeyEdges.dedup.length

/-! ## Foreign keys -/

namespace Schema

variable {s : Schema}

/-- A foreign key is a reference of a column of its first table to an existing column. -/
theorem WellKeyed.mem_foreignKeyEdges_iff (hs : s.WellKeyed) {e : ForeignKeyEdge} :
    e ∈ s.foreignKeyEdges ↔
      (∃ t, s.table? e.fromTable = some t ∧
        ∃ c ∈ t.columns, c.name = e.fromColumn ∧ c.references = some e.toRef) ∧
      s.HasColumn e.toRef := by
  have htarget {r : ColumnRef} :
      (∃ u, s.table? r.table = some u ∧ ∃ d, u.column? r.column = some d) ↔ s.HasColumn r := by
    unfold HasColumn Table.column?
    simp only [← Option.isSome_iff_exists, List.find?_isSome, beq_iff_eq]
  rw [mem_foreignKeyEdges]
  constructor
  · rintro ⟨t, ht, c, hc, h⟩
    obtain ⟨r, href, hr, rfl⟩ := edge?_eq_some_iff.1 h
    exact ⟨⟨t, hs.table?_name ht, c, hc, rfl, href⟩, htarget.1 hr⟩
  · rintro ⟨⟨t, ht, c, hc, hname, href⟩, hr⟩
    refine ⟨t, mem_values_of_table? ht, c, hc, edge?_eq_some_iff.2 ⟨e.toRef, href, ?_, ?_⟩⟩
    · exact htarget.2 hr
    · rw [hs.name_eq ht, hname]
      rfl

theorem WellKeyed.hasColumn_ends (hs : s.WellKeyed) {e : ForeignKeyEdge}
    (h : e ∈ s.foreignKeyEdges) : s.HasColumn e.fromRef ∧ s.HasColumn e.toRef := by
  obtain ⟨⟨t, ht, c, hc, hname, -⟩, hto⟩ := hs.mem_foreignKeyEdges_iff.1 h
  exact ⟨⟨t, ht, c, hc, hname⟩, hto⟩

end Schema

/-! ## Entries -/

namespace JoinGraph

theorem sorted_neighbors (g : JoinGraph) (t : String) :
    (g.neighbors t).Pairwise fun d e => compare d e = .lt := by
  unfold neighbors
  cases g.adjacency.get? t with
  | none => exact .nil
  | some edges => exact edges.sorted_keys

variable {s : Schema} (hs : s.WellKeyed)

include hs

/-- Both ends of a foreign key are tables of the schema, so that it stands at both. -/
theorem mem_neighbors_iff (t : String) (e : ForeignKeyEdge) :
    e ∈ (build s).neighbors t ↔ e ∈ s.foreignKeyEdges ∧ e.touches t = true := by
  rw [mem_neighbors_build, and_iff_right_iff_imp]
  rintro ⟨he, ht⟩
  obtain ⟨hfrom, hto⟩ := hs.ends_mem_keys he
  rcases ForeignKeyEdge.touches_iff.1 ht with rfl | rfl
  · exact hfrom
  · exact hto

theorem mem_incidences_iff (e : ForeignKeyEdge) :
    e ∈ (build s).incidences ↔ e ∈ s.foreignKeyEdges := by
  constructor
  · intro h
    obtain ⟨edges, hedges, he⟩ := List.mem_flatMap.1 h
    obtain ⟨t, ht⟩ := OrderedMap.mem_values_iff.1 hedges
    exact ((mem_neighbors_iff hs t e).1 (mem_neighbors.2 ⟨edges, ht, he⟩)).1
  · intro h
    have htouch : e.touches e.fromTable = true := ForeignKeyEdge.touches_iff.2 (.inl rfl)
    exact mem_incidences_of_mem_neighbors ((mem_neighbors_iff hs e.fromTable e).2 ⟨h, htouch⟩)

theorem depicts : (build s).Depicts s where
  keys := keys_build s
  mem_iff := mem_neighbors_iff hs
  once t := OrderedSet.nodup_of_sorted ((build s).sorted_neighbors t)
  columns t e he := hs.hasColumn_ends ((mem_neighbors_iff hs t e).1 he).1
  edgeCount := OrderedSet.size_ofList (mem_incidences_iff hs)

end JoinGraph

/-! ## A column dropped -/

namespace Table

theorem mem_dropColumn {t : Table} {name : String} {d : Column} :
    d ∈ (t.dropColumn name).columns ↔ d ∈ t.columns ∧ d.name ≠ name := by
  simp [dropColumn]

/-- If names are distinct, to drop a name is to drop one column. -/
theorem columns_dropColumn {t : Table} (hd : (t.columns.map (·.name)).Nodup) {c : Column}
    (hc : c ∈ t.columns) : (t.dropColumn c.name).columns = t.columns.erase c := by
  rw [(List.Nodup.of_map _ hd).erase_eq_filter]
  refine List.filter_congr fun d hmem => ?_
  rw [Bool.eq_iff_iff, bne_iff_ne, bne_iff_ne, not_iff_not]
  exact ⟨fun h => List.inj_on_of_nodup_map hd hmem hc h, fun h => h ▸ rfl⟩

end Table

namespace Schema

/-- The schema without the columns of that name in one of its tables. -/
def dropColumn (s : Schema) (t : Table) (name : String) : Schema :=
  s.insertTable (t.dropColumn name)

variable {s : Schema} {t : Table} (ht : t ∈ s.tables.values) {column : String}

theorem table?_dropColumn (name : String) : (s.dropColumn t column).table? name =
    if t.name = name then some (t.dropColumn column) else s.table? name :=
  OrderedMap.get?_insert _ _ _ _

variable (hs : s.WellKeyed)

include ht hs

theorem keys_dropColumn : (s.dropColumn t column).tables.keys = s.tables.keys :=
  keys_insertEntry_of_mem _ s.tables.sorted (mem_tables_iff.2 ⟨t, hs.table?_name ht⟩)

/-- What columns the schema has left are those it had but for the one. -/
theorem exists_column_dropColumn (name : String) (P : Column → Prop) :
    (∃ u, (s.dropColumn t column).table? name = some u ∧ ∃ d ∈ u.columns, P d) ↔
      ∃ u, s.table? name = some u ∧ ∃ d ∈ u.columns, P d ∧ ¬(t.name = name ∧ d.name = column) := by
  rw [table?_dropColumn]
  by_cases hname : t.name = name
  · subst hname
    have hstored := hs.table?_name ht
    simp only [if_true, hstored, Option.some.injEq, exists_eq_left', Table.mem_dropColumn]
    grind
  · simp [hname]

theorem hasColumn_dropColumn (r : ColumnRef) :
    (s.dropColumn t column).HasColumn r ↔ s.HasColumn r ∧ r ≠ ⟨t.name, column⟩ := by
  unfold HasColumn
  rw [exists_column_dropColumn ht hs r.table fun c => c.name = r.column]
  obtain ⟨table, name⟩ := r
  simp only [ne_eq, ColumnRef.mk.injEq]
  grind

theorem mem_foreignKeyEdges_drop (e : ForeignKeyEdge) :
    e ∈ (s.dropColumn t column).foreignKeyEdges ↔
      e ∈ s.foreignKeyEdges ∧ e.fromRef ≠ ⟨t.name, column⟩ ∧ e.toRef ≠ ⟨t.name, column⟩ := by
  have hs' : (s.dropColumn t column).WellKeyed := wellKeyed_insertTable hs _
  rw [hs'.mem_foreignKeyEdges_iff, hs.mem_foreignKeyEdges_iff, hasColumn_dropColumn ht hs,
    exists_column_dropColumn ht hs e.fromTable fun c =>
      c.name = e.fromColumn ∧ c.references = some e.toRef]
  simp only [ForeignKeyEdge.fromRef, ne_eq, ColumnRef.mk.injEq]
  grind

end Schema

namespace JoinGraph

/-- The graph of a schema says which foreign keys it has and where. From the entries of the graph
without a column, the foreign keys with an end in that column are gone, and nothing else is. -/
theorem depicts_build {s : Schema} (hs : s.WellKeyed) :
    (build s).Depicts s ∧
      ∀ t ∈ s.tables.values, (t.columns.map (·.name)).Nodup → ∀ c ∈ t.columns,
        (t.dropColumn c.name).columns = t.columns.erase c ∧
        (build (s.dropColumn t c.name)).adjacency.keys = (build s).adjacency.keys ∧
        ∀ u, (build (s.dropColumn t c.name)).neighbors u = ((build s).neighbors u).filter fun e =>
          e.fromRef ≠ ⟨t.name, c.name⟩ ∧ e.toRef ≠ ⟨t.name, c.name⟩ := by
  refine ⟨depicts hs, fun t ht hd c hc => ⟨Table.columns_dropColumn hd hc, ?_, fun u => ?_⟩⟩
  · rw [keys_build, keys_build, Schema.keys_dropColumn ht hs]
  · have hs' : (s.dropColumn t c.name).WellKeyed := Schema.wellKeyed_insertTable hs _
    refine OrderedSet.eq_of_sorted (sorted_neighbors _ u) ((sorted_neighbors _ u).filter _) ?_
    intro e
    rw [List.mem_filter, mem_neighbors_iff hs', mem_neighbors_iff hs,
      Schema.mem_foreignKeyEdges_drop ht hs, decide_eq_true_iff]
    exact and_right_comm

/-- Foreign keys within a table, both ways between two, two with one target, and two that lead to
nothing: to a table of another schema and to a column that is not there. -/
def offices : Schema :=
  let id : Column := { name := "id", dataType := "integer" }
  let key (name table column : String) : Column :=
    { name, dataType := "integer", references := some ⟨table, column⟩ }
  .analyzed "offices"
    [{ name := "people", space := "public",
       columns := [id, key "boss" "people" "id", key "home" "rooms" "id", key "work" "rooms" "id",
         key "badge" "hr.badges" "id", key "twin" "people" "twins"] },
      { name := "rooms", space := "public", columns := [id, key "owner" "people" "id"] }]
    (.newYear 2024)

/-- Without the first column of `people` it is no more referred to, but refers to others. -/
theorem depicts_build_offices :
    offices.WellKeyed ∧ (build offices).Depicts offices ∧ (build offices).edgeCount = 4 ∧
      ∃ t ∈ offices.tables.values, t.name = "people" ∧ (t.columns.map (·.name)).Nodup ∧
        ∃ c ∈ t.columns, c.name = "id" ∧
          (build (offices.dropColumn t c.name)).neighbors "people" =
            [⟨"people", "home", "rooms", "id"⟩, ⟨"people", "work", "rooms", "id"⟩] := by
  have hs : offices.WellKeyed := Schema.wellKeyed_analyzed _ _ _
  obtain ⟨hdepicts, hdrop⟩ := depicts_build hs
  have ht : ∃ t ∈ offices.tables.values, t.name = "people" ∧ (t.columns.map (·.name)).Nodup ∧
      ∃ c ∈ t.columns, c.name = "id" := by decide +kernel
  obtain ⟨t, ht, htname, hd, c, hc, hcname⟩ := ht
  obtain ⟨-, -, hneighbors⟩ := hdrop t ht hd c hc
  refine ⟨hs, hdepicts, by decide +kernel, t, ht, htname, hd, c, hc, hcname, ?_⟩
  rw [hneighbors, htname, hcname]
  decide +kernel

end JoinGraph

end SqlWorkload
