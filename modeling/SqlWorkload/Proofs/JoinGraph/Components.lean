import Mathlib.Data.Set.Card
import SqlWorkload.Proofs.JoinGraph.Edges
/-!
# Components

How many tables are linked with a table by foreign keys, each followed either way. A search with a
queue takes one table from it at a time and queues each table it meets for the first time; so it is
over after as many steps as there are tables to meet, and it has then met those that are listed as
reachable, which are the linked ones.

    n steps of a search follow the edges of n tables              (explores_iterate)
    a search ends after as many steps as it meets tables          (search_ends)
    the tables reachable in the graph of a schema are those linked with the table
                                                                  (mem_reachable_build_iff)
    the graph of a schema counts its components                   (countsComponents_build)
-/

namespace SqlWorkload

/-! ## Definitions -/

namespace Schema

variable (s : Schema)

/-- A foreign key connects the two tables, from the one or from the other. -/
def Related (t u : String) : Prop := ∃ e ∈ s.foreignKeyEdges, e.Connects t u

/-- A path of foreign keys, each followed either way, connects the two names. -/
def Linked : String → String → Prop := Relation.ReflTransGen s.Related

/-- The tables that are linked with a table, itself among them. -/
def component (t : String) : Set String := {u | u ∈ s.tables.keys ∧ s.Linked t u}

end Schema

namespace JoinGraph

/-- A search under way: the tables met, and the last of these, whose edges are still to be
followed. -/
structure Search where
  met : List String
  queue : List String

namespace Search

def start (t : String) : Search := ⟨[t], [t]⟩

/-- A table is queued when it is met for the first time. -/
def meet (x : Search) (t : String) : Search :=
  if t ∈ x.met then x else ⟨x.met ++ [t], x.queue ++ [t]⟩

/-- Takes the first table from the queue and meets the other ends of its edges; with nothing in the
queue the search is over. -/
def step (g : JoinGraph) (x : Search) : Search :=
  match x.queue with
  | [] => x
  | t :: rest => ((g.neighbors t).map (·.otherEnd t)).foldl meet ⟨x.met, rest⟩

/-- How far a search from `t` has come when it has followed the edges of `n` tables. -/
structure Explores (g : JoinGraph) (t : String) (n : Nat) (x : Search) : Prop where
  nodup : x.met.Nodup
  start_mem : t ∈ x.met
  connected : ∀ u ∈ x.met, g.Connected t u
  followed : ∃ done, x.met = done ++ x.queue ∧ done.length = n ∧
    ∀ v ∈ done, ∀ u, g.Adjacent v u → u ∈ x.met

end Search

/-- What the graph of a schema counts as reachable from a table is the size of its component. A
search ends with as many tables, after a step for each of them and not before. -/
structure CountsComponents (g : JoinGraph) (s : Schema) : Prop where
  search : ∀ t ∈ s.tables.keys,
    (∃ met, (Search.step g)^[g.reachableCount t] (.start t) = ⟨met, []⟩ ∧
      met.length = g.reachableCount t) ∧
    ∀ n < g.reachableCount t, ((Search.step g)^[n] (.start t)).queue ≠ []
  count_eq : ∀ t, g.reachableCount t = (s.component t).ncard
  eq_zero_iff : ∀ t, g.reachableCount t = 0 ↔ t ∉ s.tables.keys
  eq_of_mem : ∀ t, ∀ u ∈ s.component t, g.reachableCount u = g.reachableCount t

/-! ## Searches -/

namespace Search

variable {g : JoinGraph} {t : String} {n : Nat} {x : Search}

/-- What is met anew comes to the ends of both lists. -/
theorem exists_foldl_meet (names : List String) (x : Search) :
    (names.foldl meet x).met = names.foldl addNew x.met ∧
      ∃ new, (names.foldl meet x).met = x.met ++ new ∧
        (names.foldl meet x).queue = x.queue ++ new := by
  induction names generalizing x with
  | nil => exact ⟨rfl, [], by simp⟩
  | cons u rest ih =>
    obtain ⟨hmet, new, hnew, hqueue⟩ := ih (x.meet u)
    simp only [List.foldl_cons]
    by_cases hu : u ∈ x.met
    · have hx : x.meet u = x := if_pos hu
      rw [hx] at hmet hnew hqueue ⊢
      exact ⟨by rw [hmet, addNew, if_pos hu], new, hnew, hqueue⟩
    · have hx : x.meet u = ⟨x.met ++ [u], x.queue ++ [u]⟩ := if_neg hu
      rw [hx] at hmet hnew hqueue ⊢
      refine ⟨by rw [hmet, addNew, if_neg hu], u :: new, ?_, ?_⟩
      · rw [hnew, List.append_assoc, List.singleton_append]
      · rw [hqueue, List.append_assoc, List.singleton_append]

/-- With fewer tables done than are reachable, an edge leads from them to a table in the queue. -/
theorem Explores.queue_ne_nil (h : Explores g t n x) (hn : n < g.reachableCount t) :
    x.queue ≠ [] := by
  intro hqueue
  obtain ⟨done, hmet, hlength, hdone⟩ := h.followed
  rw [hqueue, List.append_nil] at hmet
  obtain ⟨v, hv, u, hvu, hu⟩ := exists_edge_leaving h.start_mem (by rwa [hmet, hlength])
  exact hu (hdone v (hmet ▸ hv) u hvu)

theorem Explores.step (h : Explores g t n x) (hn : n < g.reachableCount t) :
    Explores g t (n + 1) (x.step g) := by
  obtain ⟨v, rest, hqueue⟩ := List.exists_cons_of_ne_nil (h.queue_ne_nil hn)
  obtain ⟨done, hmet, hlength, hdone⟩ := h.followed
  have hstep : x.step g = ((g.neighbors v).map (·.otherEnd v)).foldl meet ⟨x.met, rest⟩ := by
    rw [Search.step, hqueue]
  obtain ⟨hmet', new, hnew, hqueue'⟩ :=
    exists_foldl_meet ((g.neighbors v).map (·.otherEnd v)) ⟨x.met, rest⟩
  rw [← hstep] at hmet' hnew hqueue'
  have hmem (u : String) : u ∈ (x.step g).met ↔ u ∈ x.met ∨ g.Adjacent v u := by
    rw [hmet', mem_foldl_addNew, List.mem_map]
    rfl
  refine ⟨?_, (hmem t).2 (.inl h.start_mem), fun u hu => ?_, done ++ [v], ?_, ?_, ?_⟩
  · rw [hmet']
    exact nodup_foldl_addNew h.nodup
  · rcases (hmem u).1 hu with hu | hvu
    · exact h.connected u hu
    · exact (h.connected v (by simp [hmet, hqueue])).tail hvu
  · rw [hnew, hqueue', hmet, hqueue]
    simp
  · simp [hlength]
  · intro w hw u hwu
    rcases List.mem_append.1 hw with hw | hw
    · exact (hmem u).2 (.inl (hdone w hw u hwu))
    · exact (hmem u).2 (.inr (List.mem_singleton.1 hw ▸ hwu))

theorem explores_start (g : JoinGraph) (t : String) : Explores g t 0 (start t) where
  nodup := List.nodup_singleton t
  start_mem := List.mem_singleton_self t
  connected u hu := List.mem_singleton.1 hu ▸ .refl
  followed := ⟨[], rfl, rfl, by simp⟩

theorem explores_iterate (hn : n ≤ g.reachableCount t) :
    Explores g t n ((Search.step g)^[n] (.start t)) := by
  induction n with
  | zero => exact explores_start g t
  | succ n ih =>
    rw [Function.iterate_succ_apply']
    exact (ih (Nat.le_of_succ_le hn)).step hn

/-- When the edges of as many tables have been followed as are reachable, no table is left. -/
theorem search_ends (ht : t ∈ g.adjacency.keys) :
    ∃ met, (Search.step g)^[g.reachableCount t] (.start t) = ⟨met, []⟩ ∧
      met.length = g.reachableCount t := by
  have h : Explores g t (g.reachableCount t) _ := explores_iterate (Nat.le_refl _)
  generalize (Search.step g)^[g.reachableCount t] (.start t) = x at h
  obtain ⟨done, hmet, hlength, -⟩ := h.followed
  have hsub : x.met ⊆ g.reachable t := fun u hu => mem_reachable_iff.2 ⟨ht, h.connected u hu⟩
  have hle : x.met.length ≤ g.reachableCount t := h.nodup.length_le_of_subset hsub
  rw [hmet, List.length_append, hlength] at hle
  have hqueue : x.queue = [] := List.eq_nil_of_length_eq_zero (by omega)
  refine ⟨x.met, by rw [← hqueue], ?_⟩
  rw [hmet, hqueue, List.append_nil, hlength]

end Search

theorem reachableCount_eq_zero_iff {g : JoinGraph} {t : String} :
    g.reachableCount t = 0 ↔ t ∉ g.adjacency.keys := by
  rw [reachableCount, List.length_eq_zero_iff]
  constructor
  · intro h ht
    exact List.ne_nil_of_mem (mem_reachable_self (OrderedMap.contains_iff.2 ht)) h
  · exact reachable_eq_nil

end JoinGraph

/-! ## Links -/

namespace Schema

variable {s : Schema} {t u : String}

theorem Linked.symm (h : s.Linked t u) : s.Linked u t := by
  have : Std.Symm s.Related := ⟨fun v w ⟨e, he, hvw⟩ => ⟨e, he, hvw.symm⟩⟩
  exact Relation.ReflTransGen.stdSymm.symm t u h

theorem component_eq (h : s.Linked t u) : s.component u = s.component t := by
  ext v
  exact ⟨fun ⟨hv, huv⟩ => ⟨hv, h.trans huv⟩, fun ⟨hv, htv⟩ => ⟨hv, h.symm.trans htv⟩⟩

variable (hs : s.WellKeyed)

include hs

theorem Related.mem_keys (h : s.Related t u) : t ∈ s.tables.keys ∧ u ∈ s.tables.keys := by
  obtain ⟨e, he, ⟨rfl, rfl⟩ | ⟨rfl, rfl⟩⟩ := h
  · exact hs.ends_mem_keys he
  · exact (hs.ends_mem_keys he).symm

theorem Linked.mem_keys_iff (h : s.Linked t u) : t ∈ s.tables.keys ↔ u ∈ s.tables.keys := by
  induction h with
  | refl => rfl
  | tail _ hvu ih => exact ih.trans (iff_of_true (hvu.mem_keys hs).1 (hvu.mem_keys hs).2)

end Schema

/-! ## Counts -/

namespace JoinGraph

variable {s : Schema} (hs : s.WellKeyed)

include hs

theorem adjacent_build : (build s).Adjacent = s.Related := by
  ext t u
  constructor
  · rintro ⟨e, he, rfl⟩
    obtain ⟨he, ht⟩ := (mem_neighbors_iff hs t e).1 he
    exact ⟨e, he, ForeignKeyEdge.connects_otherEnd ht⟩
  · rintro ⟨e, he, h⟩
    have ht : e.touches t = true := ForeignKeyEdge.touches_iff.2 (h.imp And.left And.right)
    refine ⟨e, (mem_neighbors_iff hs t e).2 ⟨he, ht⟩, ?_⟩
    unfold ForeignKeyEdge.otherEnd
    unfold ForeignKeyEdge.Connects at h
    grind

theorem mem_reachable_build_iff {t u : String} :
    u ∈ (build s).reachable t ↔ u ∈ s.component t := by
  rw [mem_reachable_iff, keys_build, Connected, adjacent_build hs]
  exact and_congr_left fun h => Schema.Linked.mem_keys_iff hs h

theorem reachableCount_build (t : String) :
    (build s).reachableCount t = (s.component t).ncard := by
  have hset : s.component t = ((build s).reachable t).toFinset := by
    ext u
    rw [List.coe_toFinset, Set.mem_ofPred_eq, mem_reachable_build_iff hs]
  rw [hset, Set.ncard_coe_finset, List.toFinset_card_of_nodup (nodup_reachable _ t)]
  rfl

/-- The graph of a schema counts for each table those that a path of foreign keys leads to. -/
theorem countsComponents_build : (build s).CountsComponents s where
  search t ht :=
    ⟨Search.search_ends (by rwa [keys_build]),
      fun n hn => (Search.explores_iterate (Nat.le_of_lt hn)).queue_ne_nil hn⟩
  count_eq := reachableCount_build hs
  eq_zero_iff t := by rw [reachableCount_eq_zero_iff, keys_build]
  eq_of_mem t u hu := by
    rw [reachableCount_build hs, reachableCount_build hs, Schema.component_eq hu.2]

omit hs in
/-- A chain of references, a table that refers to itself, and two references that lead nowhere. -/
def orders : Schema :=
  let id : Column := { name := "id", dataType := "integer" }
  let key (name table : String) : Column :=
    { name, dataType := "integer", references := some ⟨table, "id"⟩ }
  .analyzed "orders"
    [{ name := "users", space := "public", columns := [id] },
      { name := "orders", space := "public", columns := [id, key "user" "users"] },
      { name := "items", space := "public",
        columns := [id, key "order" "orders", key "product" "products"] },
      { name := "people", space := "public", columns := [id, key "boss" "people"] },
      { name := "logs", space := "public", columns := [id, key "actor" "ghosts"] }]
    (.newYear 2024)

omit hs in
theorem countsComponents_build_orders :
    orders.WellKeyed ∧ (build orders).CountsComponents orders ∧
      ["users", "items", "people", "logs", "products"].map (build orders).reachableCount =
        [3, 3, 1, 1, 0] ∧
      (orders.component "items").ncard = 3 := by
  have hs : orders.WellKeyed := Schema.wellKeyed_analyzed _ _ _
  have hcounts := countsComponents_build hs
  exact ⟨hs, hcounts, by decide +kernel, (hcounts.count_eq "items").symm.trans (by decide +kernel)⟩

end JoinGraph

end SqlWorkload
