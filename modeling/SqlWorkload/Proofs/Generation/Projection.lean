import SqlWorkload.Proofs.Generation.Columns
/-!
# What a query selects

The projected columns of a query are some of the columns of its tables, each once and in their
order. Without aggregates there are one to four of them, if there are so many. Beside aggregates
there are at most two, and those are what the query groups by, so that every column that is selected
as it stands is a grouping column. Sums and averages are of numbers, least and greatest values of
what is ordered.

    columns and aggregates are chosen from the candidates         (always_selected_queryOver)
    every query of a sequence selects such columns and aggregates (selects_of_mem_queries)
-/

namespace SqlWorkload

/-! ## What may be selected -/

/-- The function can be applied to the column: only numbers are added up, and truth values and types
of no known family have no order. -/
structure Aggregate.Suits (a : Aggregate) (c : Column) : Prop where
  numeric : a.function = .sum ∨ a.function = .avg →
    c.family = .integer ∨ c.family = .decimal
  ordered : a.function = .min ∨ a.function = .max →
    c.family ≠ .boolean ∧ c.family ≠ .other

/-- The query selects columns of its tables without repetition and in their order, and aggregates of
such columns, of which there are at most `most`. -/
structure Query.Selects (s : Schema) (most : Nat) (q : Query) : Prop where
  sublist : q.projection.Sublist (q.columnsIn s)
  nodup : q.projection.Nodup
  plain : q.aggregates = [] → q.groupBy = [] ∧
    q.projection.length ≤ min 4 (q.columnsIn s).length ∧
    (q.columnsIn s ≠ [] → 1 ≤ q.projection.length)
  grouped : q.aggregates ≠ [] → q.aggregates.length ≤ most ∧ q.groupBy = q.projection ∧
    q.groupBy.length ≤ min 2 (q.columnsIn s).length
  suits : ∀ a ∈ q.aggregates,
    a.column ∈ q.columnsIn s ∧ ∃ c, s.Resolves a.column c ∧ a.Suits c
  selectsAll_iff : q.selectsAll = true ↔ q.columnsIn s = []

namespace TypeFamily

variable {f : TypeFamily} {function : AggregateFunction} (h : function ∈ f.aggregates)

include h

theorem numeric_of_mem_aggregates (hf : function = .sum ∨ function = .avg) :
    f = .integer ∨ f = .decimal := by
  rcases hf with rfl | rfl <;> cases f <;> revert h <;> decide

theorem ordered_of_mem_aggregates (hf : function = .min ∨ function = .max) :
    f ≠ .boolean ∧ f ≠ .other := by
  rcases hf with rfl | rfl <;> cases f <;> revert h <;> decide

end TypeFamily

namespace Generation

open SqlWorkload.Random

/-! ## Draws -/

/-- What is selected of the columns, before they are looked up in the schema. -/
structure Selected (most : Nat) (columns : List Candidate) (q : Query) : Prop where
  length_le : q.aggregates.length ≤ most
  eq_nil : columns = [] → q.aggregates = []
  sublist : q.projection.Sublist (columns.map (·.ref))
  plain : q.aggregates = [] → q.projection.length ≤ min columns.length maxProjected ∧
    (1 ≤ min columns.length maxProjected → 1 ≤ q.projection.length)
  grouped : q.aggregates ≠ [] → q.projection.length ≤ min columns.length maxGrouped

theorem always_selected_queryOver (params : Parameters) (anchor : Table) (tables : List Table)
    (joins : List Join) :
    (queryOver params anchor tables joins).Always
      (Selected params.maxAggregates (candidates tables)) := by
  apply Draw.always_bind
  intro predicates
  refine (always_aggregates _ _).bind fun as ⟨_, hlength, hnil⟩ => ?_
  cases as with
  | nil =>
    refine (always_chooseColumns 1 maxProjected _).bind fun refs ⟨hsub, hrefs⟩ => ?_
    refine Draw.always_bind fun hints => Draw.always_pure ?_
    exact ⟨hlength, hnil, hsub, fun _ => hrefs, fun hne => absurd rfl hne⟩
  | cons a rest =>
    refine (always_chooseColumns 0 maxGrouped _).bind fun refs ⟨hsub, hrefs⟩ => ?_
    refine Draw.always_bind fun hints => Draw.always_pure ?_
    exact ⟨hlength, hnil, hsub, fun h => absurd h (by simp), fun _ => hrefs.1⟩

variable {s : Schema} {params : Parameters} {q : Query} {anchor : Table} {tables : List Table}

theorem Drawn.suits (hs : s.WellKeyed) (hd : s.DistinctColumns)
    (h : Drawn s params q anchor tables) {a : Aggregate} (ha : a ∈ q.aggregates) :
    a.column ∈ q.columnsIn s ∧ ∃ c, s.Resolves a.column c ∧ a.Suits c := by
  obtain ⟨c, hc, hcolumn, hfunction⟩ := h.aggregate a ha
  rw [hcolumn, h.columnsIn_eq hs]
  refine ⟨List.mem_map_of_mem hc, c.column, h.resolves hs hd hc, ?_, ?_⟩
  · exact TypeFamily.numeric_of_mem_aggregates hfunction
  · exact TypeFamily.ordered_of_mem_aggregates hfunction

theorem Drawn.selects (hs : s.WellKeyed) (hd : s.DistinctColumns)
    (h : Drawn s params q anchor tables) {most : Nat} (hq : Selected most (candidates tables) q) :
    q.Selects s most := by
  have hcolumns := h.columnsIn_eq hs
  have hlength : (candidates tables).length = (q.columnsIn s).length := by
    rw [hcolumns, List.length_map]
  have hsublist : q.projection.Sublist (q.columnsIn s) := hcolumns ▸ hq.sublist
  have hsome : q.aggregates = [] → q.columnsIn s ≠ [] → 1 ≤ q.projection.length := by
    intro has hne
    refine (hq.plain has).2 (Nat.le_min.2 ⟨?_, by decide⟩)
    exact hlength ▸ List.length_pos_iff.2 hne
  refine ⟨hsublist, hsublist.nodup (h.nodup_columnsIn hs hd), fun has => ?_, fun has => ?_,
    fun a ha => h.suits hs hd ha, ?_⟩
  · have hle := (hq.plain has).1
    rw [hlength, Nat.min_comm] at hle
    exact ⟨by rw [h.groupBy_eq, has]; rfl, hle, hsome has⟩
  · have hle := hq.grouped has
    have hgroupBy : q.groupBy = q.projection := by
      rw [h.groupBy_eq, if_neg (by simpa using has)]
    rw [hlength, Nat.min_comm, ← hgroupBy] at hle
    exact ⟨hq.length_le, hgroupBy, hle⟩
  · rw [Query.selectsAll, Bool.and_eq_true, List.isEmpty_iff, List.isEmpty_iff]
    constructor
    · rintro ⟨hprojection, has⟩
      by_contra hne
      have hpos := hsome has hne
      rw [hprojection] at hpos
      contradiction
    · intro hnone
      rw [hnone] at hsublist hlength
      exact ⟨List.sublist_nil.1 hsublist, hq.eq_nil (List.length_eq_zero_iff.1 hlength)⟩

end Generation

namespace Generator

theorem selects_of_mem_queries {s : Schema} (hs : s.WellKeyed) (hd : s.DistinctColumns)
    {p : Parameters} {g : Generator} (hg : start s (.build s) p = .ok g) {q : Query}
    (hq : q ∈ g.queries) : q.Selects s p.maxAggregates := by
  obtain ⟨anchor, tables, h, hselected⟩ :=
    drawn_and_of_mem_queries hs hg (Generation.always_selected_queryOver p.clamped) hq
  exact h.selects hs hd hselected

/-- A query that groups by one column beside three aggregates, and one over a table without
columns. -/
theorem selects_of_mem_queries_shop :
    Schema.shop.WellKeyed ∧ Schema.shop.DistinctColumns ∧
      ∃ g, start .shop (.build .shop) (.plain 3 2) = .ok g ∧
        (∃ q ∈ g.queries, q.aggregates.length = 3 ∧ q.groupBy = [⟨"orders", "total"⟩] ∧
          q.Selects .shop (Parameters.plain 3 2).maxAggregates) ∧
        ∃ q ∈ g.queries, q.selectsAll = true ∧
          q.Selects .shop (Parameters.plain 3 2).maxAggregates := by
  have hs : Schema.shop.WellKeyed := Schema.wellKeyed_analyzed _ _ _
  have hd : Schema.shop.DistinctColumns := by decide +kernel
  have hg : start .shop (.build .shop) (.plain 3 2) =
      .ok ⟨.shop, .build .shop, .plain 3 2, .ofSeed 2, 0⟩ :=
    start_eq_ok_iff.2 ⟨.plain 3 2, Parameters.checked_eq_ok_iff.2 ⟨by decide, by decide⟩, rfl⟩
  have hqs : (∃ q ∈ queries ⟨.shop, .build .shop, .plain 3 2, .ofSeed 2, 0⟩,
        q.aggregates.length = 3 ∧ q.groupBy = [⟨"orders", "total"⟩]) ∧
      ∃ q ∈ queries ⟨.shop, .build .shop, .plain 3 2, .ofSeed 2, 0⟩, q.selectsAll = true := by
    decide +kernel
  obtain ⟨⟨q, hq, hlength, hgroup⟩, r, hr, hall⟩ := hqs
  exact ⟨hs, hd, _, hg,
    ⟨q, hq, hlength, hgroup, selects_of_mem_queries hs hd hg hq⟩,
    r, hr, hall, selects_of_mem_queries hs hd hg hr⟩

end Generator

end SqlWorkload
