import SqlWorkload.Proofs.Generation.Columns
/-!
# The predicates of a query

Each predicate compares a column of the query that no join compares, by an operator of the family
of its type and with a literal of that family. A pattern ends in a percent sign.

    literals are of the family of their column                    (always_family_literal)
    the literal of a `LIKE` is a pattern                          (always_isPattern_literal)
    every query of a sequence has such predicates only, and none without a column for them
                                                                  (filters_of_mem_queries)
-/

namespace SqlWorkload

/-! ## What predicates may be -/

/-- The family of the columns that a literal compares with. -/
def Literal.family : Literal → TypeFamily
  | integer _ => .integer
  | decimal _ => .decimal
  | text _ => .character
  | boolean _ => .boolean
  | date _ => .date
  | timestamp _ => .timestamp
  | time _ => .time

def Literal.IsPattern (v : Literal) : Prop := ∃ front : String, v = .text (front ++ "%")

/-- The predicate compares values of the column with one of them, in a way that the column knows. -/
structure Predicate.Suits (p : Predicate) (c : Column) : Prop where
  op_mem : p.op ∈ c.family.operators
  family_eq : p.value.family = c.family
  isPattern : p.op = .like → p.value.IsPattern

namespace Query

/-- The reference stands for a column of a table of the query that can be compared and that is at
neither end of a join. -/
structure Filterable (s : Schema) (q : Query) (r : ColumnRef) (c : Column) : Prop where
  table_mem : r.table ∈ q.tables
  resolves : s.Resolves r c
  not_joined : ∀ j ∈ q.joins, r ≠ j.edge.fromRef ∧ r ≠ j.edge.toRef
  family_ne : c.family ≠ .other

/-- There are at most `most` predicates, each on such a column, and none if there is no column. -/
structure Filters (s : Schema) (most : Nat) (q : Query) : Prop where
  length_le : q.predicates.length ≤ most
  suits : ∀ p ∈ q.predicates, ∃ c, q.Filterable s p.column c ∧ p.Suits c
  eq_nil : (∀ r c, ¬ q.Filterable s r c) → q.predicates = []

end Query

namespace Generation

open SqlWorkload.Random

/-! ## Draws -/

theorem always_family_literal {c : Column} (h : c.family.isComparable = true) (op : CompareOp) :
    (literal c op).Always fun v => v.family = c.family := by
  unfold literal
  split
  · next hf => exact Draw.always_bind fun n => Draw.always_pure hf.symm
  · next hf => exact Draw.always_bind fun n => Draw.always_pure hf.symm
  · next hf =>
    split
    · exact Draw.always_bind fun s => Draw.always_pure hf.symm
    · exact Draw.always_bind fun s => Draw.always_pure hf.symm
  · next hf => exact Draw.always_bind fun b => Draw.always_pure hf.symm
  · next hf => exact Draw.always_bind fun d => Draw.always_pure hf.symm
  · next hf => exact Draw.always_bind fun d => Draw.always_bind fun t => Draw.always_pure hf.symm
  · next hf => exact Draw.always_bind fun t => Draw.always_pure hf.symm
  · next hf =>
    rw [hf] at h
    contradiction

/-- Only texts have patterns. -/
theorem always_isPattern_literal {c : Column} (h : .like ∈ c.family.operators) :
    (literal c .like).Always Literal.IsPattern := by
  have hf : c.family = .character := by
    cases hf : c.family <;> rw [hf] at h <;> revert h <;> decide
  unfold literal
  rw [hf]
  refine Draw.always_bind fun s => Draw.always_pure ⟨String.ofList s, ?_⟩
  rw [String.ofList_append]

theorem Compares.suits {columns : List Candidate} {keys : List ColumnRef} {p : Predicate}
    (h : Compares columns keys p) : ∃ c ∈ columns, c.ref ∉ keys ∧ c.family ≠ .other ∧
      p.column = c.ref ∧ p.Suits c.column := by
  obtain ⟨c, hc, hkey, hcomparable, hcolumn, hop, s, hvalue⟩ := h
  refine ⟨c, hc, hkey, ?_, hcolumn, hop, ?_, ?_⟩
  · exact bne_iff_ne.1 hcomparable
  · rw [hvalue]
    exact always_family_literal hcomparable p.op s
  · intro hlike
    rw [hvalue]
    rw [hlike] at hop ⊢
    exact always_isPattern_literal hop s

variable {s : Schema} {params : Parameters} {q : Query} {anchor : Table} {tables : List Table}

theorem Drawn.filterable (hs : s.WellKeyed) (hd : s.DistinctColumns)
    (h : Drawn s params q anchor tables) {c : Candidate} (hc : c ∈ candidates tables)
    (hkey : c.ref ∉ joinKeys q.joins) (hfamily : c.family ≠ .other) :
    q.Filterable s c.ref c.column where
  table_mem := by
    obtain ⟨t, ht, d, -, rfl⟩ := mem_candidates.1 hc
    rw [h.tables_eq]
    exact List.mem_map_of_mem ht
  resolves := h.resolves hs hd hc
  not_joined := by
    intro j hj
    have hends : ∀ r ∈ [j.edge.fromRef, j.edge.toRef], c.ref ≠ r := fun r hr heq =>
      hkey (List.mem_flatMap.2 ⟨j, hj, heq ▸ hr⟩)
    exact ⟨hends _ (by simp), hends _ (by simp)⟩
  family_ne := hfamily

theorem Drawn.filters (hs : s.WellKeyed) (hd : s.DistinctColumns)
    (h : Drawn s params q anchor tables) {most : Nat} (hlength : q.predicates.length ≤ most) :
    q.Filters s most := by
  have hsuits : ∀ p ∈ q.predicates, ∃ c, q.Filterable s p.column c ∧ p.Suits c := by
    intro p hp
    obtain ⟨c, hc, hkey, hfamily, hcolumn, hsuits⟩ := (h.predicate p hp).suits
    rw [hcolumn]
    exact ⟨c.column, h.filterable hs hd hc hkey hfamily, hsuits⟩
  refine ⟨hlength, hsuits, fun hnone => List.eq_nil_iff_forall_not_mem.2 fun p hp => ?_⟩
  obtain ⟨c, hfilterable, -⟩ := hsuits p hp
  exact hnone _ _ hfilterable

theorem always_length_queryOver (params : Parameters) (anchor : Table) (tables : List Table)
    (joins : List Join) : (queryOver params anchor tables joins).Always fun q =>
      q.predicates.length ≤ params.maxPredicates := by
  refine (always_predicates _ _ _).bind fun ps hps => ?_
  refine Draw.always_bind fun as => Draw.always_bind fun columns => ?_
  exact Draw.always_bind fun hints => Draw.always_pure hps.2.1

end Generation

namespace Generator

theorem filters_of_mem_queries {s : Schema} (hs : s.WellKeyed) (hd : s.DistinctColumns)
    {p : Parameters} {g : Generator} (hg : start s (.build s) p = .ok g) {q : Query}
    (hq : q ∈ g.queries) : q.Filters s p.maxPredicates := by
  obtain ⟨anchor, tables, h, hlength⟩ :=
    drawn_and_of_mem_queries hs hg (Generation.always_length_queryOver p.clamped) hq
  exact h.filters hs hd hlength

/-- A query with two patterns, over tables that are joined. -/
theorem filters_of_mem_queries_shop :
    Schema.shop.WellKeyed ∧ Schema.shop.DistinctColumns ∧
      ∃ g, start .shop (.build .shop) (.plain 3 2) = .ok g ∧ ∃ q ∈ g.queries,
        q.predicates.countP (·.op = .like) = 2 ∧ q.joins.length = 1 ∧
        q.Filters .shop (Parameters.plain 3 2).maxPredicates := by
  have hs : Schema.shop.WellKeyed := Schema.wellKeyed_analyzed _ _ _
  have hd : Schema.shop.DistinctColumns := by decide +kernel
  have hg : start .shop (.build .shop) (.plain 3 2) =
      .ok ⟨.shop, .build .shop, .plain 3 2, .ofSeed 2, 0⟩ :=
    start_eq_ok_iff.2 ⟨.plain 3 2, Parameters.checked_eq_ok_iff.2 ⟨by decide, by decide⟩, rfl⟩
  have hq : ∃ q ∈ queries ⟨.shop, .build .shop, .plain 3 2, .ofSeed 2, 0⟩,
      q.predicates.countP (·.op = .like) = 2 ∧ q.joins.length = 1 := by decide +kernel
  obtain ⟨q, hq, hlike, hjoins⟩ := hq
  exact ⟨hs, hd, _, hg, q, hq, hlike, hjoins, filters_of_mem_queries hs hd hg hq⟩

end Generator

end SqlWorkload
