import SqlWorkload.Proofs.Analysis.Tables
import SqlWorkload.Proofs.Generation.Columns
/-!
# Where the names in a query come from

Every name in a query over a surveyed schema was reported by the source, for the thing that the
query uses it for. Tables were listed, joins follow foreign keys of their tables, columns resolve to
exactly one column of a table of the query, and hints name such tables and indexes of theirs.

    q ∈ g.queries → q.Grounded source s for the schema s of a survey of the source
                                                                  (grounded_of_mem_queries)
-/

namespace SqlWorkload

/-! ## What a source reports -/

namespace CatalogSource

variable (source : CatalogSource)

def Lists (table : String) : Prop := ∃ names, source.tables = .ok names ∧ table ∈ names

def ReportsColumn (c : ColumnRef) : Prop :=
  ∃ rows, source.columns c.table = .ok rows ∧ ∃ r ∈ rows, r.name = c.column

def ReportsForeignKey (e : ForeignKeyEdge) : Prop :=
  ∃ rows, source.foreignKeys e.fromTable = .ok rows ∧ ⟨e.fromColumn, e.toRef⟩ ∈ rows

def ReportsIndex (table index : String) : Prop :=
  ∃ rows, source.indexes table = .ok rows ∧ ∃ r ∈ rows, r.name = index

end CatalogSource

/-- The tables that a hint names. -/
def Hint.tables : Hint → List String
  | useIndex table _ | noIndex table => [table]
  | joinMethod left right _ => [left, right]

namespace Query

/-- The columns that the clauses of a query name, those of its joins apart. -/
def columnRefs (q : Query) : List ColumnRef :=
  q.projection ++ q.groupBy ++ q.aggregates.map (·.column) ++ q.predicates.map (·.column)

/-- Every name in the query stands for something that the source reported. -/
structure Grounded (source : CatalogSource) (s : Schema) (q : Query) : Prop where
  space_eq : q.space = source.space
  table : ∀ name ∈ q.tables, source.Lists name ∧
    ∃ t, s.table? name = some t ∧ t.space = q.space
  join : ∀ j ∈ q.joins, source.ReportsForeignKey j.edge ∧
    source.ReportsColumn j.edge.fromRef ∧ source.ReportsColumn j.edge.toRef
  column : ∀ c ∈ q.columnRefs, c.table ∈ q.tables ∧
    ∃ t, s.table? c.table = some t ∧ ∃ d, t.columns.filter (·.name == c.column) = [d]
  hint : ∀ h ∈ q.hints, ∀ name ∈ h.tables, name ∈ q.tables
  index : ∀ table index, .useIndex table index ∈ q.hints → source.ReportsIndex table index

end Query

/-! ## Names in a table -/

namespace Table

/-- An index of a table is an index of one of its columns. -/
theorem exists_column_of_mem_indexes {t : Table} {i : ColumnIndex} (h : i ∈ t.indexes) :
    ∃ c ∈ t.columns, ∃ k ∈ c.indexes, k.name = i.name := by
  have key : ∀ (l : List ColumnIndex) (m : NameMap Bool) (e : String × Bool),
      e ∈ (l.foldl (fun m i =>
        m.insert i.name ((m.get? i.name).getD false || i.isUnique)) m).entries →
      e ∈ m.entries ∨ ∃ k ∈ l, k.name = e.1 := by
    intro l
    induction l with
    | nil => exact fun m e he => .inl he
    | cons k rest ih =>
      intro m e he
      rcases ih _ e he with he | ⟨k', hk', hname⟩
      · rcases mem_insertEntry he with rfl | he
        · exact .inr ⟨k, List.mem_cons_self, rfl⟩
        · exact .inl he
      · exact .inr ⟨k', List.mem_cons_of_mem _ hk', hname⟩
  obtain ⟨e, he, rfl⟩ := List.mem_map.1 h
  rcases key _ OrderedMap.empty e he with he | ⟨k, hk, hname⟩
  · simp at he
  · obtain ⟨c, hc, hk⟩ := List.mem_flatMap.1 hk
    exact ⟨c, hc, k, hk, hname⟩

variable {source : CatalogSource} {t : Table}

theorem Surveyed.reportsIndex (h : t.Surveyed source) {i : ColumnIndex} (hi : i ∈ t.indexes) :
    source.ReportsIndex t.name i.name := by
  obtain ⟨c, hc, k, hk, hname⟩ := exists_column_of_mem_indexes hi
  obtain ⟨rows, hrows, r, hr, hrow, -⟩ := (h.reported c hc).index k hk
  exact ⟨rows, hrows, r, hr, hrow.trans hname⟩

theorem Surveyed.reportsColumn (h : t.Surveyed source) {c : Column} (hc : c ∈ t.columns) :
    source.ReportsColumn ⟨t.name, c.name⟩ :=
  (h.reported c hc).column

end Table

/-! ## Names in a query -/

namespace Generation

variable {source : CatalogSource} {s : Schema} (hs : s.WellKeyed)
  (hv : ∀ t ∈ s.tables.values, source.Lists t.name ∧ t.Surveyed source)

include hs hv

/-- A foreign key of a surveyed schema was reported, and so were the columns at its ends. -/
theorem reported_of_mem_foreignKeyEdges {e : ForeignKeyEdge} (he : e ∈ s.foreignKeyEdges) :
    source.ReportsForeignKey e ∧ source.ReportsColumn e.fromRef ∧
      source.ReportsColumn e.toRef := by
  obtain ⟨t, ht, c, hc, he⟩ := Schema.mem_foreignKeyEdges.1 he
  obtain ⟨target, htarget, ⟨u, hu, d, hd⟩, rfl⟩ := Schema.edge?_eq_some_iff.1 he
  have hsurveyed := (hv t ht).2
  refine ⟨(hsurveyed.reported c hc).reference target htarget, hsurveyed.reportsColumn hc, ?_⟩
  have hto := (hv u (Schema.mem_values_of_table? hu)).2.reportsColumn
    (List.mem_of_find?_eq_some hd)
  have hname : d.name = target.column := by simpa using List.find?_some hd
  rw [hs.name_eq hu, hname] at hto
  exact hto

variable {params : Parameters} {q : Query} {anchor : Table} {tables : List Table}
  (h : Drawn s params q anchor tables)

include h

/-- A column of the tables met resolves to itself and to no other column. -/
theorem resolves_of_mem_candidates {c : Candidate} (hc : c ∈ candidates tables) :
    c.ref.table ∈ q.tables ∧ ∃ t, s.table? c.ref.table = some t ∧
      ∃ d, t.columns.filter (·.name == c.ref.column) = [d] := by
  obtain ⟨t, ht, d, hd, rfl⟩ := mem_candidates.1 hc
  have hmem := h.mem_values t ht
  refine ⟨?_, t, hs.table?_name hmem, d, Table.filter_name_eq (hv t hmem).2.nodup hd⟩
  rw [h.tables_eq]
  exact List.mem_map_of_mem ht

omit hs hv in
theorem exists_candidate_of_mem_columnRefs {c : ColumnRef} (hc : c ∈ q.columnRefs) :
    ∃ d ∈ candidates tables, d.ref = c := by
  have hprojection : ∀ c ∈ q.projection, ∃ d ∈ candidates tables, d.ref = c := fun c hc =>
    List.mem_map.1 (h.projection hc)
  simp only [Query.columnRefs, List.mem_append, List.mem_map] at hc
  rcases hc with ((hc | hc) | ⟨a, ha, rfl⟩) | ⟨p, hp, rfl⟩
  · exact hprojection c hc
  · rw [h.groupBy_eq] at hc
    split at hc
    · simp at hc
    · exact hprojection c hc
  · obtain ⟨d, hd, hcol, -⟩ := h.aggregate a ha
    exact ⟨d, hd, hcol.symm⟩
  · obtain ⟨d, hd, -, -, hcol, -⟩ := h.predicate p hp
    exact ⟨d, hd, hcol.symm⟩

theorem Drawn.grounded : q.Grounded source s := by
  have hvalues := h.mem_values
  refine ⟨?_, ?_, ?_, ?_, ?_, ?_⟩
  · rw [h.space_eq]
    exact (hv anchor h.anchor_mem).2.space_eq
  · intro name hname
    rw [h.tables_eq] at hname
    obtain ⟨t, ht, rfl⟩ := List.mem_map.1 hname
    obtain ⟨hlisted, hsurveyed⟩ := hv t (hvalues t ht)
    refine ⟨hlisted, t, hs.table?_name (hvalues t ht), ?_⟩
    rw [hsurveyed.space_eq, h.space_eq, (hv anchor h.anchor_mem).2.space_eq]
  · intro j hj
    obtain ⟨i, hi, rfl⟩ := List.mem_iff_getElem.1 hj
    exact reported_of_mem_foreignKeyEdges hs hv (h.walk.edge_at i hi).1
  · intro c hc
    obtain ⟨d, hd, rfl⟩ := exists_candidate_of_mem_columnRefs h hc
    exact resolves_of_mem_candidates hs hv h hd
  · intro x hx name hname
    rw [h.tables_eq]
    cases h.hint x hx with
    | noIndex ht => exact List.mem_singleton.1 hname ▸ List.mem_map_of_mem ht
    | useIndex ht _ => exact List.mem_singleton.1 hname ▸ List.mem_map_of_mem ht
    | joinMethod hj _ =>
      obtain ⟨hfrom, hto⟩ := h.walk.ends_mem hj
      simp only [Hint.tables, List.mem_cons, List.not_mem_nil, or_false] at hname
      rcases hname with rfl | rfl
      · exact hfrom
      · exact hto
  · intro table index hx
    cases h.hint _ hx with
    | useIndex ht hi => exact (hv _ (hvalues _ ht)).2.reportsIndex hi

end Generation

namespace Generator

theorem grounded_of_mem_queries {sourceName : String} {source : CatalogSource}
    {time : Calendar.Moment} {s : Schema}
    (hsurvey : (Schema.survey sourceName source time).outcome = .ok s) {p : Parameters}
    {g : Generator} (hg : start s (.build s) p = .ok g) {q : Query} (hq : q ∈ g.queries) :
    q.Grounded source s := by
  obtain ⟨hs, ⟨names, hnames, hkeys⟩, hsurveyed⟩ := Schema.survey_eq_ok hsurvey
  obtain ⟨anchor, tables, h⟩ := drawn_of_mem_queries hs hg hq
  refine Generation.Drawn.grounded hs (fun t ht => ⟨⟨names, hnames, ?_⟩, hsurveyed t ht⟩) h
  rw [← hkeys]
  exact Schema.mem_tables_iff.2 ⟨t, hs.table?_name ht⟩

end Generator

/-- A source that repeats names, refers to what it does not list, and denies some answers. -/
def CatalogSource.untidy : CatalogSource where
  space := "public"
  tables := .ok ["users", "orders", "users", "logs"]
  columns
    | "users" => .ok [⟨"name", "text", true, 2, none, false⟩,
        ⟨"id", "integer", false, 1, none, true⟩, ⟨"id", "text", false, 3, none, true⟩]
    | "orders" => .ok [⟨"id", "integer", false, 1, none, true⟩,
        ⟨"user", "integer", false, 2, none, true⟩]
    | _ => .error (.general "denied")
  primaryKey _ := .error (.general "denied")
  foreignKeys
    | "orders" => .ok [⟨"user", ⟨"ghosts", "id"⟩⟩, ⟨"user", ⟨"users", "id"⟩⟩,
        ⟨"none", ⟨"users", "id"⟩⟩]
    | _ => .ok []
  indexes
    | "users" => .ok [⟨"by_name", "name", true⟩, ⟨"by_ghost", "ghost", true⟩]
    | _ => .ok []
  rowEstimate _ := .ok none

theorem Generator.grounded_of_mem_queries_untidy :
    ∃ s, (Schema.survey "shop" .untidy (.newYear 2024)).outcome = .ok s ∧
      ∃ g, start s (.build s) (.plain 2 7) = .ok g ∧ ∃ q ∈ g.queries, q.Grounded .untidy s := by
  obtain ⟨s, hsurvey⟩ : ∃ s, (Schema.survey "shop" .untidy (.newYear 2024)).outcome = .ok s := by
    have hok : (Schema.survey "shop" .untidy (.newYear 2024)).outcome.isOk = true := by
      decide +kernel
    revert hok
    cases (Schema.survey "shop" .untidy _).outcome with
    | error e => simp [Except.isOk, Except.toBool]
    | ok s => exact fun _ => ⟨s, rfl⟩
  have hg : start s (.build s) (.plain 2 7) = .ok ⟨s, .build s, .plain 2 7, .ofSeed 7, 0⟩ :=
    start_eq_ok_iff.2 ⟨.plain 2 7, Parameters.checked_eq_ok_iff.2 ⟨by decide, by decide⟩, rfl⟩
  obtain ⟨hs, ⟨names, hnames, hkeys⟩, -⟩ := Schema.survey_eq_ok hsurvey
  obtain ⟨t, ht⟩ := Schema.mem_tables_iff.1 ((hkeys "users").2 (by cases hnames; decide))
  have htables : s.isEmpty = false :=
    Schema.isEmpty_eq_false_iff.2 (List.ne_nil_of_mem (Schema.mem_values_of_table? ht))
  have hlength : (queries ⟨s, .build s, .plain 2 7, .ofSeed 7, 0⟩).length = 2 := by
    rw [queries, length_take, Nat.min_self, remaining_start htables hg]
    rfl
  obtain ⟨q, hq⟩ := List.exists_mem_of_length_pos (hlength ▸ Nat.two_pos)
  exact ⟨s, hsurvey, _, hg, q, hq, grounded_of_mem_queries hsurvey hg hq⟩

end SqlWorkload
