import SqlWorkload.Proofs.Analysis.Provenance
import SqlWorkload.Proofs.Query.Readback
/-!
# Line ends in statements

Quotes keep a line end as it is. All that a statement adds of its own is on one line, so that its
line ends are those of the names and texts in it; and no text that is drawn for a literal has one.

    a statement has a line end ↔ a name that is written in it has one, or a literal
                                                                  (Dialect.hasLineEnd_render)
    the literals of a sequence have none                          (Generator.not_hasLineEnd_literal)
    its names are names of the schema                     (Generator.mem_names_of_mem_writtenNames)
-/

namespace SqlWorkload

open Text

/-! ## Texts -/

namespace Text

def HasLineEnd (s : String) : Prop := '\n' ∈ s.toList

instance (s : String) : Decidable (HasLineEnd s) := inferInstanceAs (Decidable ('\n' ∈ s.toList))

theorem mem_double {q x : Char} {s : List Char} : x ∈ double q s ↔ x ∈ s := by
  rw [← List.count_pos_iff, ← List.count_pos_iff, count_double]
  split <;> omega

variable {s t sep keyword : String} {items : List String}

@[simp] theorem hasLineEnd_append : HasLineEnd (s ++ t) ↔ HasLineEnd s ∨ HasLineEnd t := by
  simp [HasLineEnd]

theorem hasLineEnd_quote {q : Char} (hq : q ≠ '\n') : HasLineEnd (quote q s) ↔ HasLineEnd s := by
  simp [HasLineEnd, mem_double, hq.symm]

theorem hasLineEnd_joinWith (hsep : ¬ HasLineEnd sep) :
    HasLineEnd (joinWith sep items) ↔ ∃ s ∈ items, HasLineEnd s := by
  induction items with
  | nil => simp [joinWith, HasLineEnd]
  | cons s items ih =>
    cases items with
    | nil => simp [joinWith]
    | cons s' items => simp [joinWith, ih, hsep]

theorem hasLineEnd_join : HasLineEnd (String.join items) ↔ ∃ s ∈ items, HasLineEnd s := by
  induction items with
  | nil => simp [HasLineEnd]
  | cons s items ih => simp [String.join_cons, ih]

theorem hasLineEnd_clause (hkeyword : ¬ HasLineEnd keyword) (hsep : ¬ HasLineEnd sep) :
    HasLineEnd (clause keyword sep items) ↔ ∃ s ∈ items, HasLineEnd s := by
  cases items with
  | nil => simp [clause, HasLineEnd]
  | cons s items =>
    rw [clause, hasLineEnd_append, or_iff_right hkeyword, hasLineEnd_joinWith hsep]
    simp

end Text

/-! ## Literals -/

namespace Calendar

theorem Date.lineEnd_not_mem_text (d : Date) : '\n' ∉ d.text := fun h =>
  (mem_text h).elim (by decide) (by decide)

theorem TimeOfDay.lineEnd_not_mem_clockText (t : TimeOfDay) : '\n' ∉ t.clockText := fun h =>
  (mem_clockText h).elim (by decide) (by decide)

end Calendar

namespace Dialect

/-- Of all literals only texts can have a line end. -/
theorem hasLineEnd_literal {v : Literal} :
    HasLineEnd (literal v) ↔ ∃ s, v = .text s ∧ HasLineEnd s := by
  cases v with
  | integer n =>
    have hnone : '\n' ∉ intText n := fun h =>
      (isDigit_or_of_mem_intText h).elim (by decide) (by decide)
    simp [literal, HasLineEnd, hnone]
  | decimal p =>
    have hnone : '\n' ∉ p.fixedText.toList := fun h =>
      (Binary64.mem_fixedText h).elim (by decide) (by decide)
    simp [literal, HasLineEnd, hnone]
  | text s => simp [literal, hasLineEnd_quote]
  | boolean b => cases b <;> simp [literal, HasLineEnd]
  | date d => simp [literal, HasLineEnd, d.lineEnd_not_mem_text]
  | timestamp m =>
    simp [literal, HasLineEnd, m.date.lineEnd_not_mem_text, m.time.lineEnd_not_mem_clockText]
  | time t => simp [literal, HasLineEnd, t.lineEnd_not_mem_clockText]

end Dialect

/-! ## Names -/

def ColumnRef.names (c : ColumnRef) : List String := [c.table, c.column]

namespace Dialect

/-- Whether the hint is written at all: in the comment, or after a table. -/
def writesHint (d : Dialect) (q : Query) (h : Hint) : Bool :=
  (d.hintItem h).isSome || d = mysql && q.tables.any (h.isFor ·)

/-- Every name that is written in a statement, as often as a part of the query has it. -/
def writtenNames (d : Dialect) (q : Query) : List String :=
  (if d = mysql then [] else [q.space]) ++ q.tables ++
    (q.columnRefs ++ Generation.joinKeys q.joins).flatMap ColumnRef.names ++
    (q.hints.filter (d.writesHint q)).flatMap Hint.names

variable (d : Dialect)

theorem hasLineEnd_ident {name : String} : HasLineEnd (d.ident name) ↔ HasLineEnd name :=
  hasLineEnd_quote (by cases d <;> decide)

theorem hasLineEnd_column {c : ColumnRef} :
    HasLineEnd (d.column c) ↔ ∃ name ∈ c.names, HasLineEnd name := by
  have hdot : ¬ HasLineEnd "." := by decide
  simp [column, hasLineEnd_ident, ColumnRef.names, hdot]

theorem hasLineEnd_aggregate {a : Aggregate} :
    HasLineEnd (d.aggregate a) ↔ ∃ name ∈ a.column.names, HasLineEnd name := by
  have hfunction : ¬ HasLineEnd a.function.sql := by cases a.function <;> decide
  have hopen : ¬ HasLineEnd "(" := by decide
  have hclose : ¬ HasLineEnd ")" := by decide
  simp [aggregate, hasLineEnd_column, hfunction, hopen, hclose]

theorem hasLineEnd_predicate {p : Predicate} : HasLineEnd (d.predicate p) ↔
    (∃ name ∈ p.column.names, HasLineEnd name) ∨ HasLineEnd (literal p.value) := by
  have hop : ¬ HasLineEnd p.op.sql := by cases p.op <;> decide
  have hblank : ¬ HasLineEnd " " := by decide
  simp [predicate, hasLineEnd_column, hop, hblank]

theorem hasLineEnd_hintItem {h : Hint} {item : String} (hitem : d.hintItem h = some item) :
    HasLineEnd item ↔ ∃ name ∈ h.names, HasLineEnd name := by
  rw [hintItem_eq, hintCall, Option.map_eq_some_iff] at hitem
  obtain ⟨method, hmethod, rfl⟩ := hitem
  have hnone : ¬ HasLineEnd method := by
    unfold hintMethod at hmethod
    split at hmethod <;> cases hmethod <;> decide
  have hopen : ¬ HasLineEnd "(" := by decide
  have hclose : ¬ HasLineEnd ")" := by decide
  have hsep : ¬ HasLineEnd d.nameSeparator := by cases d <;> decide
  simp [callText, hnone, hopen, hclose, hasLineEnd_joinWith hsep, hasLineEnd_ident]

/-! ## Statements -/

variable {q : Query}

/-- The comment and the rest of the statement. -/
theorem hasLineEnd_render_iff_clauses : HasLineEnd (d.render q) ↔
    (∃ name ∈ d.commentedNames q.hints, HasLineEnd name) ∨ HasLineEnd (d.clauses q) := by
  have hopening : ¬ HasLineEnd d.opening := by cases d <;> decide
  have hremainder : HasLineEnd (d.remainder q) ↔ HasLineEnd (d.clauses q) := by
    have hend : ¬ HasLineEnd ";" := by decide
    have hselect : ¬ HasLineEnd "SELECT " := by decide
    cases d <;> simp [remainder, hend, hselect]
  rw [← exists_item_iff fun hitem => d.hasLineEnd_hintItem hitem]
  cases h : d.hintComment q.hints with
  | none =>
    have hitems : q.hints.filterMap d.hintItem = [] := by
      unfold hintComment at h
      split at h
      · assumption
      · contradiction
    rw [render_of_none h, hasLineEnd_append, or_iff_right hopening, hremainder, hitems]
    simp
  | some comment =>
    have hblank : ¬ HasLineEnd " " := by decide
    have hopen : ¬ HasLineEnd "/*+ " := by decide
    have hclose : ¬ HasLineEnd " */" := by decide
    rw [render_of_some h, eq_of_hintComment h]
    simp [hremainder, hopening, hblank, hopen, hclose, hasLineEnd_joinWith hblank]

theorem hasLineEnd_selectList : HasLineEnd (d.selectList q) ↔
    ∃ c ∈ q.projection ++ q.aggregates.map (·.column), ∃ name ∈ c.names, HasLineEnd name := by
  have hsep : ¬ HasLineEnd ", " := by decide
  have hstar : ¬ HasLineEnd "*" := by decide
  unfold selectList
  split
  · next h =>
    simp only [Query.selectsAll, Bool.and_eq_true, List.isEmpty_iff] at h
    simp [hstar, h.1, h.2]
  · rw [hasLineEnd_joinWith hsep]
    simp [or_and_right, exists_or, hasLineEnd_column, hasLineEnd_aggregate]

theorem hasLineEnd_qualified {space table : String} : HasLineEnd (d.qualified space table) ↔
    (d ≠ mysql ∧ HasLineEnd space) ∨ HasLineEnd table := by
  have hdot : ¬ HasLineEnd "." := by decide
  have hempty : ¬ HasLineEnd "" := by decide
  unfold qualified
  split
  · next h =>
    rcases h with rfl | rfl
    · simp [hasLineEnd_ident]
    · simp [hasLineEnd_ident, hempty]
  · next h =>
    rw [not_or] at h
    simp [hasLineEnd_ident, hdot, h.1]

/-- In MySQL the index hints of a table follow it. They name the table once more. -/
theorem hasLineEnd_tableRef {table : String} : HasLineEnd (d.tableRef q table) ↔
    (d ≠ mysql ∧ HasLineEnd q.space) ∨ HasLineEnd table ∨
      d = mysql ∧ ∃ h ∈ q.hintsFor table, ∃ name ∈ h.names, HasLineEnd name := by
  have hclause {h : Hint} (hfor : h.isFor table = true) (ht : ¬ HasLineEnd table) :
      HasLineEnd (d.indexClause h) ↔ ∃ name ∈ h.names, HasLineEnd name := by
    have hopen : ¬ HasLineEnd " USE INDEX (" := by decide
    have hclose : ¬ HasLineEnd ")" := by decide
    have hempty : ¬ HasLineEnd " USE INDEX ()" := by decide
    cases h with
    | useIndex t index =>
      obtain rfl : t = table := by simpa [Hint.isFor] using hfor
      simp [indexClause, Hint.names, hasLineEnd_ident, hopen, hclose, ht]
    | noIndex t =>
      obtain rfl : t = table := by simpa [Hint.isFor] using hfor
      simp [indexClause, Hint.names, hempty, ht]
    | joinMethod left right strategy => simp [Hint.isFor] at hfor
  rw [tableRef, hasLineEnd_append, hasLineEnd_qualified, or_assoc]
  refine or_congr_right (or_congr_right' fun ht => ?_)
  by_cases hd : d = mysql
  · rw [if_pos hd, hasLineEnd_join, and_iff_right hd]
    simp only [List.mem_map, exists_exists_and_eq_and]
    exact exists_congr fun h => and_congr_right fun hh => hclause (List.mem_filter.1 hh).2 ht
  · have hempty : ¬ HasLineEnd "" := by decide
    simp [hd, hempty]

theorem hasLineEnd_joinClause {j : Join} : HasLineEnd (d.joinClause q j) ↔
    HasLineEnd (d.tableRef q j.table) ∨
      ∃ c ∈ [j.edge.fromRef, j.edge.toRef], ∃ name ∈ c.names, HasLineEnd name := by
  have hjoin : ¬ HasLineEnd " JOIN " := by decide
  have hon : ¬ HasLineEnd " ON " := by decide
  have heq : ¬ HasLineEnd " = " := by decide
  simp [joinClause, hjoin, hon, heq, hasLineEnd_column, or_assoc]

theorem hasLineEnd_whereClause {predicates : List Predicate} :
    HasLineEnd (d.whereClause predicates) ↔
      (∃ c ∈ predicates.map (·.column), ∃ name ∈ c.names, HasLineEnd name) ∨
        ∃ p ∈ predicates, HasLineEnd (literal p.value) := by
  rw [whereClause_eq, hasLineEnd_clause (by decide) (by decide)]
  simp [hasLineEnd_predicate, and_or_left, exists_or]

theorem hasLineEnd_groupClause {columns : List ColumnRef} :
    HasLineEnd (d.groupClause columns) ↔ ∃ c ∈ columns, ∃ name ∈ c.names, HasLineEnd name := by
  rw [groupClause_eq, hasLineEnd_clause (by decide) (by decide)]
  simp [hasLineEnd_column]

/-- The tables of the statement, where they are first named. -/
theorem hasLineEnd_tableRefs : (∃ table ∈ q.tables, HasLineEnd (d.tableRef q table)) ↔
    (d ≠ mysql ∧ HasLineEnd q.space) ∨ (∃ table ∈ q.tables, HasLineEnd table) ∨
      d = mysql ∧ ∃ h ∈ q.hints, q.tables.any (h.isFor ·) = true ∧
        ∃ name ∈ h.names, HasLineEnd name := by
  simp only [hasLineEnd_tableRef, and_or_left, exists_or]
  refine or_congr ?_ (or_congr_right ?_)
  · exact ⟨fun ⟨_, _, h⟩ => h, fun h => ⟨q.source, List.mem_cons_self, h⟩⟩
  · simp only [Query.hintsFor, List.mem_filter, List.any_eq_true]
    constructor
    · rintro ⟨t, ht, hd, h, ⟨hh, hfor⟩, hend⟩
      exact ⟨hd, h, hh, ⟨t, ht, hfor⟩, hend⟩
    · rintro ⟨hd, h, hh, ⟨t, ht, hfor⟩, hend⟩
      exact ⟨t, ht, hd, h, ⟨hh, hfor⟩, hend⟩

theorem hasLineEnd_clauses : HasLineEnd (d.clauses q) ↔
    (∃ table ∈ q.tables, HasLineEnd (d.tableRef q table)) ∨
      (∃ c ∈ q.columnRefs ++ Generation.joinKeys q.joins, ∃ name ∈ c.names, HasLineEnd name) ∨
        ∃ p ∈ q.predicates, HasLineEnd (literal p.value) := by
  have hfrom : ¬ HasLineEnd " FROM " := by decide
  have htables : (∃ table ∈ q.tables, HasLineEnd (d.tableRef q table)) ↔
      HasLineEnd (d.tableRef q q.source) ∨ ∃ j ∈ q.joins, HasLineEnd (d.tableRef q j.table) := by
    simp [Query.tables]
  have hjoins : (∃ j ∈ q.joins, HasLineEnd (d.joinClause q j)) ↔
      (∃ j ∈ q.joins, HasLineEnd (d.tableRef q j.table)) ∨
        ∃ c ∈ Generation.joinKeys q.joins, ∃ name ∈ c.names, HasLineEnd name := by
    simp only [hasLineEnd_joinClause, and_or_left, exists_or, Generation.joinKeys,
      List.mem_flatMap]
    refine or_congr_right ?_
    grind
  rw [htables]
  simp only [clauses, hasLineEnd_append, hasLineEnd_selectList, hfrom, or_false, hasLineEnd_join,
    List.mem_map, exists_exists_and_eq_and, hjoins, hasLineEnd_whereClause,
    hasLineEnd_groupClause, Query.columnRefs, List.mem_append, or_and_right, exists_or]
  exact iff_of_eq (by ac_rfl)

/-- A statement is on one line unless a name or a text in it is not. -/
theorem hasLineEnd_render : HasLineEnd (d.render q) ↔
    (∃ name ∈ d.writtenNames q, HasLineEnd name) ∨
      ∃ p ∈ q.predicates, HasLineEnd (literal p.value) := by
  have hspace : (∃ name ∈ if d = mysql then [] else [q.space], HasLineEnd name) ↔
      d ≠ mysql ∧ HasLineEnd q.space := by
    split <;> simp_all
  have hcolumns {columns : List ColumnRef} :
      (∃ name ∈ columns.flatMap ColumnRef.names, HasLineEnd name) ↔
        ∃ c ∈ columns, ∃ name ∈ c.names, HasLineEnd name := by
    grind
  have hhints : (∃ name ∈ (q.hints.filter (d.writesHint q)).flatMap Hint.names, HasLineEnd name) ↔
      (∃ name ∈ d.commentedNames q.hints, HasLineEnd name) ∨
        d = mysql ∧ ∃ h ∈ q.hints, q.tables.any (h.isFor ·) = true ∧
          ∃ name ∈ h.names, HasLineEnd name := by
    simp only [commentedNames, List.mem_flatMap, List.mem_filter, writesHint]
    grind
  rw [hasLineEnd_render_iff_clauses, hasLineEnd_clauses, hasLineEnd_tableRefs]
  simp only [writtenNames, List.mem_append, or_and_right, exists_or, hspace, hcolumns, hhints]
  exact iff_of_eq (by ac_rfl)

end Dialect

/-! ## Names of a schema -/

def Table.names (t : Table) : List String :=
  t.space :: t.name :: (t.columns.map (·.name) ++ t.indexes.map (·.name))

/-- The names that a query over the schema can be made of. -/
def Schema.names (s : Schema) : List String := s.tables.values.flatMap Table.names

theorem Table.mem_names_of_column {t : Table} {c : Column} (hc : c ∈ t.columns) :
    ∀ name ∈ ColumnRef.names ⟨t.name, c.name⟩, name ∈ t.names := by
  have hcolumn : c.name ∈ t.columns.map (·.name) := List.mem_map_of_mem hc
  simp [ColumnRef.names, names, -List.mem_map, hcolumn]

theorem Schema.mem_names_of_edge {s : Schema} (hs : s.WellKeyed) {e : ForeignKeyEdge}
    (he : e ∈ s.foreignKeyEdges) :
    ∀ c ∈ [e.fromRef, e.toRef], ∀ name ∈ c.names, name ∈ s.names := by
  obtain ⟨t, ht, c, hc, hedge⟩ := mem_foreignKeyEdges.1 he
  obtain ⟨target, -, ⟨u, hu, d, hd⟩, rfl⟩ := edge?_eq_some_iff.1 hedge
  have hcolumn : d.name = target.column := by simpa using List.find?_some hd
  have hto : ForeignKeyEdge.toRef ⟨t.name, c.name, target.table, target.column⟩ =
      ⟨u.name, d.name⟩ := by
    rw [ForeignKeyEdge.toRef, hs.name_eq hu, hcolumn]
  intro ref href
  simp only [List.mem_cons, List.not_mem_nil, or_false] at href
  rcases href with rfl | rfl
  · intro name hname
    exact List.mem_flatMap.2 ⟨t, ht, Table.mem_names_of_column hc name hname⟩
  · intro name hname
    rw [hto] at hname
    exact List.mem_flatMap.2 ⟨u, mem_values_of_table? hu,
      Table.mem_names_of_column (List.mem_of_find?_eq_some hd) name hname⟩

namespace Generation

variable {s : Schema} {params : Parameters} {q : Query} {anchor : Table} {tables : List Table}

theorem Drawn.mem_names_of_mem_writtenNames (h : Drawn s params q anchor tables)
    (hs : s.WellKeyed) {d : Dialect} : ∀ name ∈ d.writtenNames q, name ∈ s.names := by
  have hof {t : Table} (ht : t ∈ tables) : ∀ name ∈ t.names, name ∈ s.names := fun name hname =>
    List.mem_flatMap.2 ⟨t, h.mem_values t ht, hname⟩
  intro name hname
  simp only [Dialect.writtenNames, List.flatMap_append, List.mem_append] at hname
  rcases hname with ((hspace | htable) | hcolumn | hkey) | hhint
  · split at hspace
    · contradiction
    · rw [List.mem_singleton.1 hspace, h.space_eq]
      exact List.mem_flatMap.2 ⟨anchor, h.anchor_mem, List.mem_cons_self⟩
  · rw [h.tables_eq] at htable
    obtain ⟨t, ht, rfl⟩ := List.mem_map.1 htable
    exact hof ht _ (by simp [Table.names])
  · obtain ⟨c, hc, hname⟩ := List.mem_flatMap.1 hcolumn
    obtain ⟨k, hk, rfl⟩ := exists_candidate_of_mem_columnRefs h hc
    obtain ⟨t, ht, column, hcolumn, rfl⟩ := mem_candidates.1 hk
    exact hof ht name (Table.mem_names_of_column hcolumn name hname)
  · obtain ⟨c, hc, hname⟩ := List.mem_flatMap.1 hkey
    obtain ⟨j, hj, hc⟩ := List.mem_flatMap.1 hc
    obtain ⟨i, hi, rfl⟩ := List.mem_iff_getElem.1 hj
    exact Schema.mem_names_of_edge hs (h.walk.edge_at i hi).1 c hc name hname
  · obtain ⟨x, hx, hname⟩ := List.mem_flatMap.1 hhint
    cases h.hint x (List.mem_filter.1 hx).1 with
    | noIndex ht => exact hof ht _ (by grind [Table.names, Hint.names])
    | useIndex ht hi => exact hof ht _ (by grind [Table.names, Hint.names])
    | joinMethod hj strategy =>
      obtain ⟨hfrom, hto⟩ := h.walk.ends_mem hj
      have hend {table : String} (htable : table ∈ tables.map (·.name)) : table ∈ s.names := by
        obtain ⟨t, ht, rfl⟩ := List.mem_map.1 htable
        exact hof ht _ (by simp [Table.names])
      simp only [Hint.names, List.mem_cons, List.not_mem_nil, or_false] at hname
      rcases hname with rfl | rfl
      · exact hend hfrom
      · exact hend hto

end Generation

/-! ## Literals that are drawn -/

namespace Generation

open SqlWorkload.Random

theorem always_token (n : Nat) : (token n).Always fun s => ∀ c ∈ s, c ∈ alphabet :=
  Draw.always_many (Draw.always_pick _ _)

theorem always_tokenUpTo (limit : Nat) (h : 0 < limit) :
    (tokenUpTo limit h).Always fun s => ∀ c ∈ s, c ∈ alphabet :=
  Draw.always_bind fun _ => always_token _

/-- Texts are tokens and patterns. -/
theorem always_text_literal (c : Column) (op : CompareOp) : (literal c op).Always fun v =>
    ∀ s, v = .text s → ∀ x ∈ s.toList, x ∈ '%' :: alphabet := by
  have htoken {s : List Char} (h : ∀ x ∈ s, x ∈ alphabet) : ∀ x ∈ s, x ∈ '%' :: alphabet :=
    fun x hx => List.mem_cons_of_mem _ (h x hx)
  have hpattern {s : List Char} (h : ∀ x ∈ s, x ∈ alphabet) :
      ∀ x ∈ s ++ ['%'], x ∈ '%' :: alphabet := by
    rw [List.forall_mem_append]
    exact ⟨htoken h, by simp⟩
  have htext {s : List Char} (h : ∀ x ∈ s, x ∈ '%' :: alphabet) :
      ∀ t, Literal.text (String.ofList s) = .text t → ∀ x ∈ t.toList, x ∈ '%' :: alphabet := by
    rintro _ ⟨⟩
    rwa [String.toList_ofList]
  unfold literal
  split
  · exact Draw.always_bind fun n => Draw.always_pure (by simp)
  · exact Draw.always_bind fun n => Draw.always_pure (by simp)
  · split
    · exact (always_tokenUpTo _ _).bind fun s hs => Draw.always_pure (htext (hpattern hs))
    · exact (always_tokenUpTo _ _).bind fun s hs => Draw.always_pure (htext (htoken hs))
  · exact Draw.always_bind fun b => Draw.always_pure (by simp)
  · exact Draw.always_bind fun d => Draw.always_pure (by simp)
  · exact Draw.always_bind fun d => Draw.always_bind fun t => Draw.always_pure (by simp)
  · exact Draw.always_bind fun t => Draw.always_pure (by simp)
  · exact (always_token _).bind fun s hs => Draw.always_pure (htext (htoken hs))

/-- Tokens and patterns are on one line, and no other literal is a text. -/
theorem always_literal (c : Column) (op : CompareOp) :
    (literal c op).Always fun v => ¬ HasLineEnd (Dialect.literal v) := by
  refine (always_text_literal c op).mono fun v hv hend => ?_
  obtain ⟨s, hs, hend⟩ := Dialect.hasLineEnd_literal.1 hend
  exact absurd (hv s hs _ hend) (by decide)

theorem Compares.not_hasLineEnd {columns : List Candidate} {keys : List ColumnRef}
    {p : Predicate} (h : Compares columns keys p) : ¬ HasLineEnd (Dialect.literal p.value) := by
  obtain ⟨c, -, -, -, -, -, s, hs⟩ := h
  rw [hs]
  exact always_literal c.column p.op s

theorem always_literals_query (schema : Schema) (graph : JoinGraph) (params : Parameters)
    (h : schema.tables.values ≠ []) : (query schema graph params h).Always fun q =>
      ∀ p ∈ q.predicates, ¬ HasLineEnd (Dialect.literal p.value) := by
  refine Draw.always_bind fun anchor => Draw.always_bind fun ⟨tables, joins⟩ => ?_
  refine (always_predicates _ (candidates tables) (joinKeys joins)).bind fun ps hps => ?_
  refine Draw.always_bind fun as => Draw.always_bind fun columns => Draw.always_bind fun hs => ?_
  exact Draw.always_pure fun p hp => (hps.1 p hp).not_hasLineEnd

end Generation

namespace Generator

theorem not_hasLineEnd_literal {g : Generator} {q : Query} (hq : q ∈ g.queries) :
    ∀ p ∈ q.predicates, ¬ HasLineEnd (Dialect.literal p.value) :=
  forall_queries (fun hne => Generation.always_literals_query g.schema g.graph g.params hne) q hq

/-- Whether a statement of a sequence is on one line, its names alone decide. -/
theorem hasLineEnd_render_of_mem_queries {g : Generator} {q : Query} (hq : q ∈ g.queries)
    (d : Dialect) : HasLineEnd (d.render q) ↔ ∃ name ∈ d.writtenNames q, HasLineEnd name := by
  rw [d.hasLineEnd_render]
  refine or_iff_left fun h => ?_
  obtain ⟨p, hp, hend⟩ := h
  exact not_hasLineEnd_literal hq p hp hend

/-- A statement over a schema is made of its names. -/
theorem mem_names_of_mem_writtenNames {s : Schema} (hs : s.WellKeyed) {p : Parameters}
    {g : Generator} (hg : start s (.build s) p = .ok g) {q : Query} (hq : q ∈ g.queries)
    (d : Dialect) : ∀ name ∈ d.writtenNames q, name ∈ s.names := by
  obtain ⟨anchor, tables, h⟩ := drawn_of_mem_queries hs hg hq
  exact h.mem_names_of_mem_writtenNames hs

end Generator

end SqlWorkload
