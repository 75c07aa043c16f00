import SqlWorkload.Proofs.JoinGraph.Incidence
import Mathlib.Logic.Relation
/-!
# Connected tables

The tables that are listed as reachable from a table are those to which a path of edges leads. The
search grows its list round by round; a round that adds nothing leaves a list that no edge leads out
of, and there cannot be more rounds than ends of edges.

    u ∈ g.reachable t ↔ t is a table of g and g.Connected t u      (mem_reachable_iff)
    a list shorter than the reachable ones has an edge that leads out of it
                                                                  (exists_edge_leaving)
-/

namespace SqlWorkload

theorem prefix_foldl_addNew {α : Type} [DecidableEq α] (l m : List α) :
    l <+: m.foldl addNew l := by
  induction m generalizing l with
  | nil => exact List.prefix_rfl
  | cons a rest ih =>
    rw [List.foldl_cons]
    have h : l <+: addNew l a := by
      unfold addNew
      split
      · exact List.prefix_rfl
      · exact List.prefix_append l [a]
    exact h.trans (ih _)

namespace JoinGraph

/-- An edge leads from the first table to the second. -/
def Adjacent (g : JoinGraph) (t u : String) : Prop := ∃ e ∈ g.neighbors t, e.otherEnd t = u

/-- A path of edges leads from the first table to the second. -/
def Connected (g : JoinGraph) : String → String → Prop := Relation.ReflTransGen g.Adjacent

/-- The ends of all edges. -/
def ends (g : JoinGraph) : List String :=
  g.incidences.flatMap fun e => [e.fromTable, e.toTable]

variable {g : JoinGraph} {n : Nat} {seen : List String} {t u : String}

theorem length_ends (g : JoinGraph) : g.ends.length = 2 * g.incidences.length := by
  unfold ends
  induction g.incidences with
  | nil => rfl
  | cons e rest ih =>
    rw [List.flatMap_cons, List.length_append, ih, List.length_cons]
    simp only [List.length_cons, List.length_nil]
    omega

theorem mem_incidences_of_mem_neighbors {e : ForeignKeyEdge} (h : e ∈ g.neighbors t) :
    e ∈ g.incidences := by
  obtain ⟨edges, ht, he⟩ := mem_neighbors.1 h
  exact List.mem_flatMap.2 ⟨edges, OrderedMap.mem_values_iff.2 ⟨t, ht⟩, he⟩

theorem Adjacent.mem_ends (h : g.Adjacent t u) : u ∈ g.ends := by
  obtain ⟨e, he, rfl⟩ := h
  refine List.mem_flatMap.2 ⟨e, mem_incidences_of_mem_neighbors he, ?_⟩
  unfold ForeignKeyEdge.otherEnd
  split <;> simp

/-! ## The search -/

theorem mem_grow_iff : u ∈ g.grow seen ↔ u ∈ seen ∨ ∃ t ∈ seen, g.Adjacent t u := mem_grow

theorem prefix_grow : seen <+: g.grow seen := prefix_foldl_addNew _ _

theorem nodup_grow (h : seen.Nodup) : (g.grow seen).Nodup := nodup_foldl_addNew h

/-- What the search finds is connected with something it began with. -/
theorem connected_of_mem_growUpTo (h : u ∈ g.growUpTo n seen) :
    ∃ t ∈ seen, g.Connected t u := by
  induction n generalizing seen with
  | zero => exact ⟨u, h, .refl⟩
  | succ n ih =>
    rw [growUpTo] at h
    split at h
    · exact ⟨u, h, .refl⟩
    · obtain ⟨v, hv, hvu⟩ := ih h
      rcases mem_grow_iff.1 hv with hv | ⟨t, ht, htv⟩
      · exact ⟨v, hv, hvu⟩
      · exact ⟨t, ht, .head htv hvu⟩

/-- With as many rounds as there are names to find, the last round adds nothing. -/
theorem grow_growUpTo (bound : List String) (hb : ∀ t u, g.Adjacent t u → u ∈ bound)
    (hs : seen ⊆ bound) (hd : seen.Nodup) (hn : bound.length ≤ seen.length + n) :
    g.grow (g.growUpTo n seen) = g.growUpTo n seen := by
  have hsub : ∀ {seen : List String}, seen ⊆ bound → g.grow seen ⊆ bound := by
    intro seen hs x hx
    rcases mem_grow_iff.1 hx with hx | ⟨t, -, htx⟩
    · exact hs hx
    · exact hb t x htx
  induction n generalizing seen with
  | zero =>
    have hle := (nodup_grow (g := g) hd).length_le_of_subset (hsub hs)
    show g.grow seen = seen
    exact (prefix_grow.eq_of_length_le (by omega)).symm
  | succ n ih =>
    rw [growUpTo]
    split
    · next h => exact (prefix_grow.eq_of_length h.symm).symm
    · next h =>
      have hle : seen.length ≤ (g.grow seen).length := prefix_grow.length_le
      exact ih (hsub hs) (nodup_grow hd) (by omega)

theorem grow_reachable : g.grow (g.reachable t) = g.reachable t := by
  unfold reachable
  split
  · refine grow_growUpTo (t :: g.ends) ?_ (by simp) (by simp) ?_
    · intro u v h
      exact List.mem_cons_of_mem _ h.mem_ends
    · rw [List.length_cons, length_ends, List.length_singleton]
      omega
  · rfl

theorem reachable_eq_nil (h : t ∉ g.adjacency.keys) : g.reachable t = [] := by
  rw [reachable, if_neg]
  rwa [OrderedMap.contains_iff]

/-- The search finds the tables connected with a table of the graph, and nothing else. -/
theorem mem_reachable_iff : u ∈ g.reachable t ↔ t ∈ g.adjacency.keys ∧ g.Connected t u := by
  constructor
  · intro h
    by_cases ht : t ∈ g.adjacency.keys
    · rw [reachable, if_pos (OrderedMap.contains_iff.2 ht)] at h
      obtain ⟨v, hv, hvu⟩ := connected_of_mem_growUpTo h
      rw [List.mem_singleton] at hv
      exact ⟨ht, hv ▸ hvu⟩
    · rw [reachable_eq_nil ht] at h
      exact absurd h List.not_mem_nil
  · rintro ⟨ht, h⟩
    induction h with
    | refl => exact mem_reachable_self (OrderedMap.contains_iff.2 ht)
    | tail _ hvu ih => rw [← grow_reachable]; exact mem_grow_iff.2 (.inr ⟨_, ih, hvu⟩)

/-- From a set of tables around `t` with fewer tables than are reachable, an edge leads out. -/
theorem exists_edge_leaving (ht : t ∈ seen) (hlt : seen.length < g.reachableCount t) :
    ∃ v ∈ seen, ∃ u, g.Adjacent v u ∧ u ∉ seen := by
  apply Classical.byContradiction
  intro hno
  have hclosed : ∀ v ∈ seen, ∀ u, g.Adjacent v u → u ∈ seen := by
    intro v hv u hvu
    apply Classical.byContradiction
    intro hu
    exact hno ⟨v, hv, u, hvu, hu⟩
  have hsub : g.reachable t ⊆ seen := by
    intro u hu
    replace hu := (mem_reachable_iff.1 hu).2
    induction hu with
    | refl => exact ht
    | tail _ hvu ih => exact hclosed _ ih _ hvu
  have hle := (nodup_reachable g t).length_le_of_subset hsub
  exact absurd hlt (Nat.not_lt.2 hle)

end JoinGraph

end SqlWorkload
