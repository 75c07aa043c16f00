import SqlWorkload.Catalog.Schema
/-!
# Join graphs

The tables of a schema, each with the foreign keys at it. A foreign key stands at both of its ends
and may be followed either way.

    (JoinGraph.build s).adjacency.keys = s.tables.keys              (keys_build)
    t ∈ g.reachable t for each table t of g                        (mem_reachable_self)
    the tables reachable from t are listed once each                (nodup_reachable)
-/

namespace SqlWorkload

/-! ## Algorithm -/

structure JoinGraph where
  adjacency : NameMap (OrderedSet ForeignKeyEdge)
deriving DecidableEq

/-- The list with `a` put at its end, if it is not there yet. -/
def addNew {α : Type} [DecidableEq α] (l : List α) (a : α) : List α :=
  if a ∈ l then l else l ++ [a]

namespace JoinGraph

/-- The graph with an edge more at one table, if it has that table. -/
def addAt (g : JoinGraph) (table : String) (e : ForeignKeyEdge) : JoinGraph :=
  ⟨g.adjacency.modify table (·.add e)⟩

def addEdge (g : JoinGraph) (e : ForeignKeyEdge) : JoinGraph :=
  (g.addAt e.toTable e).addAt e.fromTable e

/-- The graph of these tables without an edge. -/
def ofTables (tables : NameMap Table) : JoinGraph := ⟨tables.mapValues fun _ => OrderedMap.empty⟩

def build (s : Schema) : JoinGraph := s.foreignKeyEdges.foldl addEdge (ofTables s.tables)

/-- The edges at a table in order; an unknown table has none. -/
def neighbors (g : JoinGraph) (table : String) : List ForeignKeyEdge :=
  ((g.adjacency.get? table).map (·.toList)).getD []

/-- All edges, each as often as it stands at a table. -/
def incidences (g : JoinGraph) : List ForeignKeyEdge := g.adjacency.values.flatMap (·.toList)

/-- The number of distinct edges. -/
def edgeCount (g : JoinGraph) : Nat := (OrderedSet.ofList g.incidences).size

/-- The names seen so far, with those that one edge leads to from them. -/
def grow (g : JoinGraph) (seen : List String) : List String :=
  (seen.flatMap fun t => (g.neighbors t).map (·.otherEnd t)).foldl addNew seen

/-- Grows until nothing is new, at most `n` times. -/
def growUpTo (g : JoinGraph) : Nat → List String → List String
  | 0, seen => seen
  | n + 1, seen =>
    if (g.grow seen).length = seen.length then seen else g.growUpTo n (g.grow seen)

/-- The tables that are connected with `table`, itself first. Each round but the last finds an end
of an edge that was not seen before, so that two rounds for each incidence are enough. -/
def reachable (g : JoinGraph) (table : String) : List String :=
  if g.adjacency.contains table then g.growUpTo (2 * g.incidences.length) [table] else []

def reachableCount (g : JoinGraph) (table : String) : Nat := (g.reachable table).length

end JoinGraph

/-! ## Lemmas -/

theorem mem_addNew {α : Type} [DecidableEq α] {l : List α} {a x : α} :
    x ∈ addNew l a ↔ x ∈ l ∨ x = a := by
  unfold addNew; split <;> grind

theorem nodup_addNew {α : Type} [DecidableEq α] {l : List α} {a : α} (h : l.Nodup) :
    (addNew l a).Nodup := by
  unfold addNew; split
  · exact h
  · next ha => exact List.nodup_append.2 ⟨h, by simp, fun x hx y hy => by grind⟩

theorem mem_foldl_addNew {α : Type} [DecidableEq α] {l m : List α} {x : α} :
    x ∈ m.foldl addNew l ↔ x ∈ l ∨ x ∈ m := by
  induction m generalizing l with
  | nil => simp
  | cons a rest ih => rw [List.foldl_cons, ih, mem_addNew]; grind

theorem nodup_foldl_addNew {α : Type} [DecidableEq α] {l m : List α} (h : l.Nodup) :
    (m.foldl addNew l).Nodup := by
  induction m generalizing l with
  | nil => exact h
  | cons a rest ih => exact ih (nodup_addNew h)

namespace JoinGraph

@[simp] theorem keys_addEdge (g : JoinGraph) (e : ForeignKeyEdge) :
    (g.addEdge e).adjacency.keys = g.adjacency.keys := by
  simp [addEdge, addAt]

theorem keys_build (s : Schema) : (build s).adjacency.keys = s.tables.keys := by
  have (edges : List ForeignKeyEdge) (g : JoinGraph) :
      (edges.foldl addEdge g).adjacency.keys = g.adjacency.keys := by
    induction edges generalizing g with
    | nil => rfl
    | cons e rest ih => rw [List.foldl_cons, ih, keys_addEdge]
  rw [build, this, ofTables, OrderedMap.keys_mapValues]

theorem mem_grow {g : JoinGraph} {seen : List String} {x : String} :
    x ∈ g.grow seen ↔ x ∈ seen ∨ ∃ t ∈ seen, ∃ e ∈ g.neighbors t, e.otherEnd t = x := by
  simp [grow, mem_foldl_addNew, List.mem_flatMap, List.mem_map]

theorem nodup_growUpTo {g : JoinGraph} {n : Nat} {seen : List String} (h : seen.Nodup) :
    (g.growUpTo n seen).Nodup := by
  induction n generalizing seen with
  | zero => exact h
  | succ n ih =>
    rw [growUpTo]; split
    · exact h
    · exact ih (nodup_foldl_addNew h)

theorem subset_growUpTo {g : JoinGraph} {n : Nat} {seen : List String} :
    seen ⊆ g.growUpTo n seen := by
  induction n generalizing seen with
  | zero => exact fun _ h => h
  | succ n ih =>
    rw [growUpTo]; split
    · exact fun _ h => h
    · exact fun x hx => ih (mem_grow.2 (.inl hx))

theorem nodup_reachable (g : JoinGraph) (t : String) : (g.reachable t).Nodup := by
  unfold reachable; split
  · exact nodup_growUpTo (by simp)
  · exact .nil

theorem mem_reachable_self {g : JoinGraph} {t : String} (h : g.adjacency.contains t = true) :
    t ∈ g.reachable t := by
  rw [reachable, if_pos h]; exact subset_growUpTo (by simp)

end JoinGraph

end SqlWorkload
