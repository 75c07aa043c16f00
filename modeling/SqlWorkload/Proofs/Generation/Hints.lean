import SqlWorkload.Proofs.Generation.Columns
import SqlWorkload.Proofs.Generation.Limits
/-!
# The hints of a query

First come the hints on indexes, at most one for each table and in the order of the tables, and then
at most one hint on how to join. A table is hinted to use one of its indexes, and a unique one if it
has any. Chances of zero and of one settle what is hinted. Settings for hints that are not asked for
have no part in a sequence, and from one place in the stream the next query is the same apart from
its hints, whatever the settings are.

    index hints follow the tables                                 (HintsAlong.sublist)
    each table has its part in them                               (HintsAlong.exists_part)
    chances of hints that are not asked for make no difference    (query_withChances)
    without its hints a query does not depend on their settings   (agree_query)
    the hints of every query follow the settings for them, and nothing else does  (hinted_queries)
-/

namespace SqlWorkload

/-! ## What hints there may be -/

/-- The table whose indexes the hint is about. -/
def Hint.table? : Hint → Option String
  | useIndex t _ | noIndex t => some t
  | joinMethod _ _ _ => none

namespace Query

def unhinted (q : Query) : Query := { q with hints := [] }

/-- The hints of the query are about its tables and joins, and follow the settings for them. -/
structure Hinted (s : Schema) (p : Parameters) (q : Query) : Prop where
  /-- Index hints in the order of the tables, then a hint for one of the joins. -/
  ordered : ∃ index join, q.hints = index ++ join ∧
    (index.map Hint.table?).Sublist (q.tables.map some) ∧ (index.map Hint.table?).Nodup ∧
    (join = [] ∨ ∃ j ∈ q.joins, ∃ strategy,
      join = [.joinMethod j.edge.fromTable j.edge.toTable strategy])
  no_index_hint : p.useIndexHints = false → ∀ h ∈ q.hints, h.isIndexHint = false
  no_joinMethod : p.usePhysicalOperatorHints = false →
    ∀ left right strategy, .joinMethod left right strategy ∉ q.hints
  useIndex : ∀ table index, .useIndex table index ∈ q.hints →
    ∃ t, s.table? table = some t ∧ ∃ i ∈ t.indexes, i.name = index ∧
      ((∃ k ∈ t.indexes, k.isUnique = true) → i.isUnique = true)
  noIndex_of_certain : p.useIndexHints = true → .one ≤ p.noIndexHintProbability →
    ∀ table ∈ q.tables, .noIndex table ∈ q.hints
  noIndex_of_impossible : p.noIndexHintProbability ≤ .zero → ∀ table, .noIndex table ∉ q.hints
  useIndex_iff : p.useIndexHints = true → p.noIndexHintProbability ≤ .zero →
    .one ≤ p.indexHintProbability → ∀ table ∈ q.tables,
      (∃ index, .useIndex table index ∈ q.hints) ↔
        ∃ t, s.table? table = some t ∧ t.indexes ≠ []

end Query

namespace Parameters

/-- The parameters with other probabilities of hints. -/
def withChances (p : Parameters) (index noIndex physical : Binary64) : Parameters :=
  { p with
    indexHintProbability := index
    noIndexHintProbability := noIndex
    physicalOperatorHintProbability := physical }

/-- The parameters with all that the others say about hints. -/
def withHintsOf (p r : Parameters) : Parameters :=
  { p.withChances r.indexHintProbability r.noIndexHintProbability
      r.physicalOperatorHintProbability with
    useIndexHints := r.useIndexHints
    usePhysicalOperatorHints := r.usePhysicalOperatorHints }

end Parameters

namespace Generation

open SqlWorkload.Random

/-! ## The hint for one table -/

namespace HintFor

variable {p : Parameters} {t : Table} {part : List Hint}

theorem sublist (h : HintFor p t part) : (part.map Hint.table?).Sublist [some t.name] := by
  cases h with
  | noIndex | useIndex => exact List.Sublist.refl _
  | none => exact List.nil_sublist _

theorem isIndexHint (h : HintFor p t part) {x : Hint} (hx : x ∈ part) : x.isIndexHint = true := by
  cases h with
  | noIndex | useIndex => exact List.mem_singleton.1 hx ▸ rfl
  | none => exact absurd hx List.not_mem_nil

theorem exists_index (h : HintFor p t part) {table index : String}
    (hx : .useIndex table index ∈ part) : table = t.name ∧ ∃ i ∈ t.indexes, i.name = index ∧
      ((∃ k ∈ t.indexes, k.isUnique = true) → i.isUnique = true) := by
  cases h with
  | noIndex => simp at hx
  | useIndex no use hi preferred =>
    cases List.mem_singleton.1 hx
    exact ⟨rfl, _, hi, rfl, preferred⟩
  | none => exact absurd hx List.not_mem_nil

theorem not_mem_noIndex (h : HintFor p.clamped t part) (hp : p.noIndexHintProbability ≤ .zero)
    (table : String) : .noIndex table ∉ part := by
  cases h with
  | noIndex no =>
    have := (Draw.always_false_chance hp).of_possible no
    contradiction
  | useIndex | none => simp

theorem eq_noIndex (h : HintFor p.clamped t part) (hp : .one ≤ p.noIndexHintProbability) :
    part = [.noIndex t.name] := by
  have hcertain := Draw.always_true_chance hp
  cases h with
  | noIndex => rfl
  | useIndex no | none no =>
    have := hcertain.of_possible no
    contradiction

theorem exists_eq_useIndex (h : HintFor p.clamped t part) (hno : p.noIndexHintProbability ≤ .zero)
    (huse : .one ≤ p.indexHintProbability) (ht : t.indexes ≠ []) :
    ∃ index, part = [.useIndex t.name index] := by
  cases h with
  | noIndex no =>
    have := (Draw.always_false_chance hno).of_possible no
    contradiction
  | useIndex => exact ⟨_, rfl⟩
  | none no use =>
    rcases use with hnil | use
    · exact absurd hnil ht
    · have := (Draw.always_true_chance huse).of_possible use
      contradiction

end HintFor

/-! ## The hints for the tables in turn -/

namespace HintsAlong

variable {p : Parameters} {tables : List Table} {index : List Hint}

theorem sublist (h : HintsAlong p tables index) :
    (index.map Hint.table?).Sublist ((tables.map (·.name)).map some) := by
  induction h with
  | nil => exact List.Sublist.refl _
  | cons hfirst _ ih =>
    rw [List.map_append]
    exact hfirst.sublist.append ih

theorem exists_part (h : HintsAlong p tables index) {t : Table} (ht : t ∈ tables) :
    ∃ part, HintFor p t part ∧ part ⊆ index := by
  induction h with
  | nil => exact absurd ht List.not_mem_nil
  | cons hfirst _ ih =>
    rcases List.mem_cons.1 ht with rfl | ht
    · exact ⟨_, hfirst, List.subset_append_left _ _⟩
    · obtain ⟨part, hpart, hsub⟩ := ih ht
      exact ⟨part, hpart, List.subset_append_of_subset_right _ hsub⟩

end HintsAlong

section

variable {s : Schema} (hs : s.WellKeyed) {p : Parameters} {q : Query} {anchor : Table}
  {tables : List Table} (h : Drawn s p.clamped q anchor tables) {index join : List Hint}
  (hsplit : q.hints = index ++ join) (hhints : HintsOver p.clamped tables q.joins index join)

include hsplit hhints

/-- A hint for a join is no index hint, so that each index hint is one for a table. -/
theorem Drawn.exists_part {x : Hint} (hx : x ∈ q.hints) (hindex : x.isIndexHint = true) :
    ∃ t ∈ tables, ∃ part, HintFor p.clamped t part ∧ x ∈ part := by
  rw [hsplit] at hx
  rcases List.mem_append.1 hx with hx | hx
  · exact hhints.exists_table hx
  · rcases hhints.join with rfl | ⟨-, j, -, strategy, rfl⟩
    · exact absurd hx List.not_mem_nil
    · rw [List.mem_singleton.1 hx] at hindex
      contradiction

/-- Conversely the part of each table is among the hints, if index hints are asked for. -/
theorem Drawn.exists_part_subset (hasked : p.useIndexHints = true) {t : Table} (ht : t ∈ tables) :
    ∃ part, HintFor p.clamped t part ∧ part ⊆ q.hints := by
  obtain ⟨part, hpart, hsub⟩ := (hhints.asked hasked).exists_part ht
  exact ⟨part, hpart, hsplit ▸ List.subset_append_of_subset_left _ hsub⟩

include hs h

theorem Drawn.ordered_hints : ∃ index join, q.hints = index ++ join ∧
    (index.map Hint.table?).Sublist (q.tables.map some) ∧ (index.map Hint.table?).Nodup ∧
    (join = [] ∨ ∃ j ∈ q.joins, ∃ strategy,
      join = [.joinMethod j.edge.fromTable j.edge.toTable strategy]) := by
  have hsublist : (index.map Hint.table?).Sublist (q.tables.map some) := by
    cases hasked : p.useIndexHints with
    | true =>
      rw [h.tables_eq]
      exact (hhints.asked hasked).sublist
    | false =>
      rw [hhints.not_asked hasked]
      exact List.nil_sublist _
  have hnodup : (q.tables.map some).Nodup :=
    List.pairwise_map.2 ((h.joinTree hs).nodup.imp fun hne heq => hne (Option.some.inj heq))
  exact ⟨index, join, hsplit, hsublist, hsublist.nodup hnodup, hhints.join.imp_right (·.2)⟩

theorem Drawn.exists_index {table name : String} (hx : .useIndex table name ∈ q.hints) :
    ∃ t, s.table? table = some t ∧ ∃ i ∈ t.indexes, i.name = name ∧
      ((∃ k ∈ t.indexes, k.isUnique = true) → i.isUnique = true) := by
  obtain ⟨t, ht, part, hpart, hx⟩ := Drawn.exists_part hsplit hhints hx rfl
  obtain ⟨rfl, i, hi, hname, hpreferred⟩ := hpart.exists_index hx
  exact ⟨t, hs.table?_name (h.mem_values t ht), i, hi, hname, hpreferred⟩

theorem Drawn.hinted : q.Hinted s p where
  ordered := h.ordered_hints hs hsplit hhints
  no_index_hint := by
    intro hasked x hx
    rw [hsplit, hhints.not_asked hasked, List.nil_append] at hx
    rcases hhints.join with rfl | ⟨-, j, -, strategy, rfl⟩
    · exact absurd hx List.not_mem_nil
    · exact List.mem_singleton.1 hx ▸ rfl
  no_joinMethod := by
    intro hasked left right strategy hx
    rw [hsplit] at hx
    rcases List.mem_append.1 hx with hx | hx
    · obtain ⟨t, -, part, hpart, hx⟩ := hhints.exists_table hx
      exact absurd (hpart.isIndexHint hx) Bool.false_ne_true
    · rcases hhints.join with rfl | ⟨hphysical, -⟩
      · exact absurd hx List.not_mem_nil
      · exact absurd (hasked.symm.trans hphysical) Bool.false_ne_true
  useIndex := fun _ _ hx => h.exists_index hs hsplit hhints hx
  noIndex_of_certain := by
    intro hasked hcertain table htable
    rw [h.tables_eq] at htable
    obtain ⟨t, ht, rfl⟩ := List.mem_map.1 htable
    obtain ⟨part, hpart, hsub⟩ := Drawn.exists_part_subset hsplit hhints hasked ht
    rw [hpart.eq_noIndex hcertain] at hsub
    exact hsub (List.mem_singleton_self _)
  noIndex_of_impossible := by
    intro hno table hx
    obtain ⟨t, -, part, hpart, hx⟩ := Drawn.exists_part hsplit hhints hx rfl
    exact hpart.not_mem_noIndex hno table hx
  useIndex_iff := by
    intro hasked hno huse table htable
    constructor
    · rintro ⟨name, hx⟩
      obtain ⟨t, ht, i, hi, -⟩ := h.exists_index hs hsplit hhints hx
      exact ⟨t, ht, List.ne_nil_of_mem hi⟩
    · rintro ⟨t, ht, hne⟩
      rw [h.tables_eq] at htable
      obtain ⟨u, hu, rfl⟩ := List.mem_map.1 htable
      obtain rfl : u = t := Option.some.inj ((hs.table?_name (h.mem_values u hu)).symm.trans ht)
      obtain ⟨part, hpart, hsub⟩ := Drawn.exists_part_subset hsplit hhints hasked hu
      obtain ⟨name, rfl⟩ := hpart.exists_eq_useIndex hno huse hne
      exact ⟨name, hsub (List.mem_singleton_self _)⟩

end

/-! ## Two runs -/

theorem joinHint_congr {p r : Parameters}
    (h : p.physicalOperatorHintProbability = r.physicalOperatorHintProbability)
    (joins : List Join) : joinHint p joins = joinHint r joins := by
  unfold joinHint
  rw [h]

section

variable {p : Parameters} {index noIndex physical : Binary64}
  (hindex : p.useIndexHints = true →
    index = p.indexHintProbability ∧ noIndex = p.noIndexHintProbability)
  (hphysical : p.usePhysicalOperatorHints = true → physical = p.physicalOperatorHintProbability)

include hindex hphysical

theorem hints_withChances (tables : List Table) (joins : List Join) :
    hints (p.withChances index noIndex physical) tables joins = hints p tables joins := by
  have hfirst : (if p.useIndexHints = true
        then indexHints (p.withChances index noIndex physical) tables else pure []) =
      if p.useIndexHints = true then indexHints p tables else pure [] :=
    ite_congr rfl (fun h => indexHints_congr (hindex h).1 (hindex h).2 tables) fun _ => rfl
  have hlast : (if p.usePhysicalOperatorHints = true
        then joinHint (p.withChances index noIndex physical) joins else pure []) =
      if p.usePhysicalOperatorHints = true then joinHint p joins else pure [] :=
    ite_congr rfl (fun h => joinHint_congr (hphysical h) joins) fun _ => rfl
  rw [hints_eq, hints_eq, ← hfirst, ← hlast]
  rfl

/-- Chances that are never taken make no difference. -/
theorem query_withChances {s : Schema} {graph : JoinGraph} (hne : s.tables.values ≠ []) :
    query s graph (p.withChances index noIndex physical) hne = query s graph p hne := by
  unfold query queryOver
  simp only [hints_withChances hindex hphysical]
  rfl

end

/-- The hints are drawn last, so that nothing else of the query depends on them. -/
theorem agree_queryOver (p r : Parameters) (anchor : Table) (tables : List Table)
    (joins : List Join) : Draw.Agree Query.unhinted
      (queryOver (p.withHintsOf r) anchor tables joins) (queryOver p anchor tables joins) := by
  refine Draw.agree_bind fun predicates => ?_
  refine Draw.agree_bind fun aggregates => ?_
  refine Draw.agree_bind fun projection => ?_
  exact fun s => rfl

theorem agree_query {s : Schema} (graph : JoinGraph) (p r : Parameters)
    (hne : s.tables.values ≠ []) :
    Draw.Agree Query.unhinted (query s graph (p.withHintsOf r) hne) (query s graph p hne) := by
  refine Draw.agree_bind fun anchor => ?_
  refine Draw.agree_bind fun (tables, joins) => ?_
  exact agree_queryOver p r anchor tables joins

theorem always_hints_queryOver (params : Parameters) (anchor : Table) (tables : List Table)
    (joins : List Join) : (queryOver params anchor tables joins).Always fun q =>
      ∃ index join, q.hints = index ++ join ∧ HintsOver params tables q.joins index join := by
  refine Draw.always_bind fun predicates => Draw.always_bind fun aggregates => ?_
  refine Draw.always_bind fun projection => ?_
  exact (always_hints params tables joins).bind fun hints h => Draw.always_pure h

end Generation

namespace Generator

/-- From any place in the stream, settings for hints change nothing but the hints of the query. -/
theorem next?_withHintsOf (g : Generator) (r : Parameters) :
    (g.withParams (g.params.withHintsOf r)).next?.map (·.1.unhinted) =
      g.next?.map (·.1.unhinted) := by
  by_cases hdone : g.remaining = 0
  · have hdone' : (g.withParams (g.params.withHintsOf r)).remaining = 0 := hdone
    rw [next?_eq_none_iff.2 hdone, next?_eq_none_iff.2 hdone']
  · obtain ⟨hne, hlt⟩ := lt_of_remaining_pos (Nat.pos_of_ne_zero hdone)
    obtain ⟨x, hx⟩ : ∃ x, Generation.query g.schema g.graph g.params hne g.stream = x := ⟨_, rfl⟩
    obtain ⟨x', hx'⟩ : ∃ x, Generation.query g.schema g.graph (g.params.withHintsOf r) hne
      g.stream = x := ⟨_, rfl⟩
    have hagree := Generation.agree_query g.graph g.params r hne g.stream
    rw [hx, hx'] at hagree
    rw [next?_of_query hx hlt,
      next?_of_query (g := g.withParams (g.params.withHintsOf r)) hx' hlt]
    exact congrArg some hagree

section

variable {s : Schema} {p : Parameters} {g : Generator} (hg : start s (.build s) p = .ok g)

include hg

theorem hinted_of_mem (hs : s.WellKeyed) {q : Query} (hq : q ∈ g.queries) : q.Hinted s p := by
  obtain ⟨anchor, tables, h, index, join, hsplit, hhints⟩ :=
    drawn_and_of_mem_queries hs hg (Generation.always_hints_queryOver p.clamped) hq
  exact h.hinted hs hsplit hhints

/-- Sequences do not depend on the chances of hints that are not asked for. -/
theorem queries_withChances {index noIndex physical : Binary64} {g' : Generator}
    (hindex : p.useIndexHints = true →
      index = p.indexHintProbability ∧ noIndex = p.noIndexHintProbability)
    (hphysical : p.usePhysicalOperatorHints = true → physical = p.physicalOperatorHintProbability)
    (hg' : start s (.build s) (p.withChances index noIndex physical) = .ok g') :
    g'.queries = g.queries := by
  have hindex' : p.clamped.useIndexHints = true →
      index.clampUnit = p.clamped.indexHintProbability ∧
        noIndex.clampUnit = p.clamped.noIndexHintProbability := fun h =>
    (hindex h).imp (congrArg Binary64.clampUnit) (congrArg Binary64.clampUnit)
  have hphysical' : p.clamped.usePhysicalOperatorHints = true →
      physical.clampUnit = p.clamped.physicalOperatorHintProbability := fun h =>
    congrArg Binary64.clampUnit (hphysical h)
  obtain ⟨r, hr, rfl⟩ := start_eq_ok_iff.1 hg
  obtain ⟨-, rfl⟩ := Parameters.checked_eq_ok_iff.1 hr
  obtain ⟨r', hr', rfl⟩ := start_eq_ok_iff.1 hg'
  obtain ⟨-, rfl⟩ := Parameters.checked_eq_ok_iff.1 hr'
  exact queries_withParams (g := ⟨s, .build s, p.clamped, .ofSeed p.seed, 0⟩)
    (Generation.query_withChances hindex' hphysical') rfl

end

/-- Hints follow the settings for them. No sequence depends on a chance that is never taken, and
nothing of a query but its hints depends on any of the settings. -/
theorem hinted_queries {s : Schema} (hs : s.WellKeyed) {p : Parameters} {g : Generator}
    (hg : start s (.build s) p = .ok g) :
    (∀ q ∈ g.queries, q.Hinted s p) ∧
      (∀ index noIndex physical g',
        (p.useIndexHints = true →
          index = p.indexHintProbability ∧ noIndex = p.noIndexHintProbability) →
        (p.usePhysicalOperatorHints = true → physical = p.physicalOperatorHintProbability) →
        start s (.build s) (p.withChances index noIndex physical) = .ok g' →
        g'.queries = g.queries) ∧
      ∀ stream emitted r,
        let g : Generator := { g with stream, emitted }
        (g.withParams (g.params.withHintsOf r)).next?.map (·.1.unhinted) =
          g.next?.map (·.1.unhinted) := by
  refine ⟨fun q hq => hinted_of_mem hg hs hq, ?_, fun stream emitted r => next?_withHintsOf _ r⟩
  intro index noIndex physical g' hindex hphysical hg'
  exact queries_withChances hg hindex hphysical hg'

/-- Only index hints are asked for, with chances beyond both ends of the unit interval. -/
def hinting : Parameters :=
  { numQueries := 3, seed := 2, indexHintProbability := .ofNat 2
    noIndexHintProbability := .neg .one, usePhysicalOperatorHints := false }

theorem hinted_queries_shop :
    Schema.shop.WellKeyed ∧ ∃ g, start .shop (.build .shop) hinting = .ok g ∧
      (∃ q ∈ g.queries,
        q.hints = [.useIndex "customers" "by_id", .useIndex "orders" "by_customer"] ∧
          q.Hinted .shop hinting) ∧
      (∃ g', start .shop (.build .shop) (hinting.withChances (.ofNat 2) (.neg .one) .one) = .ok g' ∧
        g'.queries = g.queries) ∧
      (g.withParams (g.params.withHintsOf (.plain 3 2))).next?.map (·.1.unhinted) =
        g.next?.map (·.1.unhinted) := by
  have hs : Schema.shop.WellKeyed := Schema.wellKeyed_analyzed _ _ _
  have hg : start .shop (.build .shop) hinting =
      .ok ⟨.shop, .build .shop, hinting.clamped, .ofSeed 2, 0⟩ :=
    start_eq_ok_iff.2 ⟨_, Parameters.checked_eq_ok_iff.2 ⟨by decide +kernel, rfl⟩, rfl⟩
  have hg' : start .shop (.build .shop) (hinting.withChances (.ofNat 2) (.neg .one) .one) =
      .ok ⟨.shop, .build .shop, (hinting.withChances (.ofNat 2) (.neg .one) .one).clamped,
        .ofSeed 2, 0⟩ :=
    start_eq_ok_iff.2 ⟨_, Parameters.checked_eq_ok_iff.2 ⟨by decide +kernel, rfl⟩, rfl⟩
  have hq : ∃ q ∈ queries ⟨.shop, .build .shop, hinting.clamped, .ofSeed 2, 0⟩,
      q.hints = [.useIndex "customers" "by_id", .useIndex "orders" "by_customer"] := by
    decide +kernel
  obtain ⟨hinted, unasked, unhinted⟩ := hinted_queries hs hg
  obtain ⟨q, hq, hhints⟩ := hq
  refine ⟨hs, _, hg, ⟨q, hq, hhints, hinted q hq⟩, ⟨_, hg', ?_⟩, unhinted _ _ _⟩
  exact unasked _ _ _ _ (fun _ => ⟨rfl, rfl⟩) (fun h => absurd h Bool.false_ne_true) hg'

end Generator

end SqlWorkload
