import Mathlib.Data.List.Chain
import SqlWorkload.Proofs.Generation.Hints
import SqlWorkload.Proofs.Query.Readback
/-!
# Where hints stand

Hints are additions to a statement: without them it is the statement of the query without hints.
PostgreSQL has all of them in a comment in front. MySQL has a hint on indexes behind the table that
it is about, and the others in a comment behind the first keyword.

    dialects with the same mark write the same clauses            (clauses_congr)
    PostgreSQL has a statement of standard SQL behind a comment   (render_postgres_eq_ansi)
    a statement of MySQL is made of parts                         (text_parts)
    an index hint is written as USE INDEX, with the index if any  (StatementPart.indexClause_eq)
    index hints, table by table, are all index hints in order     (flatMap_hintsFor)
    each hint of a generated query is at its place, once          (placed_of_mem_queries)
-/

namespace SqlWorkload

open Text

namespace Dialect

/-! ## Dialects that write alike -/

section

variable {d e : Dialect} (hmark : d.mark = e.mark)

include hmark

theorem ident_congr : d.ident = e.ident := by
  funext name
  rw [ident, ident, hmark]

theorem column_congr : d.column = e.column := by
  funext c
  rw [column, column, ident_congr hmark]

theorem aggregate_congr : d.aggregate = e.aggregate := by
  funext a
  rw [aggregate, aggregate, column_congr hmark]

theorem predicate_congr : d.predicate = e.predicate := by
  funext p
  rw [predicate, predicate, column_congr hmark]

theorem selectList_congr (q : Query) : d.selectList q = e.selectList q := by
  rw [selectList, selectList, column_congr hmark, aggregate_congr hmark]

variable (hd : d ≠ mysql) (he : e ≠ mysql)

include hd he

theorem qualified_congr : d.qualified = e.qualified := by
  funext space table
  rw [qualified, qualified, ident_congr hmark]
  by_cases hspace : space = ""
  · rw [if_pos (.inr hspace), if_pos (.inr hspace)]
  · rw [if_neg (not_or.2 ⟨hd, hspace⟩), if_neg (not_or.2 ⟨he, hspace⟩)]

theorem tableRef_congr (q : Query) : d.tableRef q = e.tableRef q := by
  funext table
  rw [tableRef, tableRef, if_neg hd, if_neg he, qualified_congr hmark hd he]

theorem joinClause_congr (q : Query) : d.joinClause q = e.joinClause q := by
  funext j
  rw [joinClause, joinClause, tableRef_congr hmark hd he, column_congr hmark]

/-- Nothing but the hints depends on what the dialect is, if its names have the same mark. -/
theorem clauses_congr (q : Query) : d.clauses q = e.clauses q := by
  rw [clauses, clauses, selectList_congr hmark, tableRef_congr hmark hd he,
    joinClause_congr hmark hd he, whereClause_eq, whereClause_eq, predicate_congr hmark,
    groupClause_eq, groupClause_eq, column_congr hmark]

end

/-! ## Standard SQL and PostgreSQL -/

theorem exists_hintCall_postgres (h : Hint) : ∃ item, postgres.hintCall h = some item := by
  obtain ⟨method, hmethod⟩ := exists_hintMethod_postgres h
  rw [hintCall, hmethod]
  exact ⟨_, rfl⟩

/-- If there is something to say for each hint, each has its item. -/
theorem map_hintCall_eq {d : Dialect} {hints : List Hint}
    (h : ∀ x ∈ hints, ∃ item, d.hintCall x = some item) :
    hints.map d.hintCall = (hints.map fun x => (d.hintCall x).getD "").map some := by
  rw [List.map_map]
  apply List.map_congr_left
  intro x hx
  obtain ⟨item, hitem⟩ := h x hx
  rw [Function.comp_apply, hitem]
  rfl

/-- Standard SQL does not know of hints. PostgreSQL has its statement behind a comment with an item
for each hint, its method and its names, if there is one. -/
theorem render_postgres_eq_ansi (q : Query) :
    (∀ hints, ansi.render { q with hints } = ansi.render q) ∧
    ∃ items : List String, q.hints.map postgres.hintCall = items.map some ∧
      postgres.render q =
        (if q.hints = [] then "" else "/*+ " ++ joinWith " " items ++ " */ ") ++ ansi.render q := by
  constructor
  · intro hints
    have hlike : ({ q with hints } : Query).Alike q :=
      ⟨rfl, rfl, rfl, rfl, rfl, List.forall₂_same.2 fun p _ => ⟨rfl, rfl, .refl _⟩, rfl⟩
    rw [render_ansi, render_ansi, hlike.clauses_eq (by decide)]
  · refine ⟨_, map_hintCall_eq fun h _ => exists_hintCall_postgres h, ?_⟩
    rw [render_postgres, render_ansi, hintLead_postgres, hintItem_eq,
      clauses_congr (d := postgres) (e := ansi) rfl (by decide) (by decide)]

end Dialect

/-! ## Statements of MySQL in parts -/

theorem Hint.isFor_iff {h : Hint} {table : String} :
    h.isFor table = true ↔ h.table? = some table := by
  cases h <;> simp [isFor, table?]

open Dialect (mysql)

inductive StatementPart where
  | plain (text : String)
  /-- A table where it is first named. -/
  | reference (table : String)
  | clause (h : Hint)
  | comment (hints : List Hint)

namespace StatementPart

/-- A clause says which index to use, or that there is none to use; for joins there is no clause. -/
def text : StatementPart → String
  | plain s => s
  | reference table => mysql.ident table
  | clause (.useIndex _ index) => " USE INDEX (" ++ mysql.ident index ++ ")"
  | clause (.noIndex _) => " USE INDEX ()"
  | clause (.joinMethod _ _ _) => ""
  | comment hints => "/*+ " ++ joinWith " " (hints.filterMap mysql.hintCall) ++ " */ "

def textOf (parts : List StatementPart) : String := String.join (parts.map text)

def reference? : StatementPart → Option String
  | reference table => some table
  | plain _ | clause _ | comment _ => none

def clause? : StatementPart → Option Hint
  | clause h => some h
  | plain _ | reference _ | comment _ => none

def comment? : StatementPart → Option (List Hint)
  | comment hints => some hints
  | plain _ | reference _ | clause _ => none

def isForHints : StatementPart → Bool
  | clause _ | comment _ => true
  | plain _ | reference _ => false

/-- What may be next: tables stand behind a keyword, and a clause behind the table that its hint is
about. -/
inductive Follows : StatementPart → StatementPart → Prop
  | plain (part : StatementPart) (s : String) : Follows part (plain s)
  | source (s table : String) : Follows (.plain (s ++ " FROM ")) (reference table)
  | joined (table : String) : Follows (.plain " JOIN ") (reference table)
  | clause {table : String} {h : Hint} (hfor : h.table? = some table) :
    Follows (reference table) (clause h)
  | comment (hints : List Hint) : Follows (.plain "SELECT ") (comment hints)

theorem indexClause_eq (h : Hint) : mysql.indexClause h = (clause h).text := by
  cases h <;> rfl

theorem textOf_append (l m : List StatementPart) : textOf (l ++ m) = textOf l ++ textOf m := by
  rw [textOf, List.map_append, String.join_append]
  rfl

end StatementPart

open StatementPart (textOf textOf_append)

namespace Query

/-- The hints that are not about indexes. -/
def joinHints (q : Query) : List Hint := q.hints.filter (!·.isIndexHint)

def selectParts (q : Query) : List StatementPart :=
  .plain "SELECT " :: if q.joinHints = [] then [] else [.comment q.joinHints]

/-- A table behind the text in front of it, and the clauses for it. -/
def tableParts (q : Query) (before table : String) : List StatementPart :=
  .plain before :: .reference table :: (q.hintsFor table).map .clause

def joinParts (q : Query) (j : Join) : List StatementPart :=
  q.tableParts " JOIN " j.table ++
    [.plain (" ON " ++ mysql.column j.edge.fromRef ++ " = " ++ mysql.column j.edge.toRef)]

def parts (q : Query) : List StatementPart :=
  q.selectParts ++ q.tableParts (mysql.selectList q ++ " FROM ") q.source ++
    q.joins.flatMap q.joinParts ++
    [.plain (mysql.whereClause q.predicates ++ mysql.groupClause q.groupBy ++ ";")]

/-- Each hint of the query is at its place in the statement of MySQL, and nowhere else. -/
structure Placed (q : Query) : Prop where
  /-- Table by table, no index hint is lost and none repeated. -/
  grouped : q.tables.flatMap q.hintsFor = q.hints.filter Hint.isIndexHint
  single : ∀ table, (q.hintsFor table).length ≤ 1
  text : textOf q.parts = mysql.render q
  references : q.parts.filterMap StatementPart.reference? = q.tables
  clauses : q.parts.filterMap StatementPart.clause? = q.hints.filter Hint.isIndexHint
  /-- Each of them is right behind the table that it is about. -/
  behind : q.parts.IsChain StatementPart.Follows
  /-- All other hints are in one comment, behind the first keyword. -/
  comments :
    q.parts.filterMap StatementPart.comment? = if q.joinHints = [] then [] else [q.joinHints]
  leading : ∀ hints, .comment hints ∈ q.parts →
    ∃ rest, q.parts = .plain "SELECT " :: .comment hints :: rest
  /-- The comment has something to say for each. -/
  items : ∃ items : List String, q.joinHints.map mysql.hintCall = items.map some
  unhinted : q.parts.filter (!·.isForHints) = q.unhinted.parts
  unhinted_text : textOf (q.parts.filter (!·.isForHints)) = mysql.render q.unhinted

/-! ### Their text -/

section

variable (q : Query)

theorem exists_item_of_mem_joinHints {h : Hint} (hh : h ∈ q.joinHints) :
    ∃ item, mysql.hintCall h = some item := by
  have hindex : h.isIndexHint = false := by simpa using (List.mem_filter.1 hh).2
  cases h with
  | useIndex table index => contradiction
  | noIndex table => contradiction
  | joinMethod left right strategy => cases strategy <;> exact ⟨_, rfl⟩

theorem filterMap_joinHints :
    q.joinHints.filterMap mysql.hintCall = q.hints.filterMap mysql.hintItem := by
  rw [Dialect.hintItem_eq, joinHints, List.filterMap_filter]
  apply List.filterMap_congr
  intro h _
  cases h <;> rfl

theorem text_selectParts : textOf q.selectParts = mysql.select q := by
  have hfilter := q.filterMap_joinHints
  unfold selectParts
  by_cases hnil : q.joinHints = []
  · rw [hnil, List.filterMap_nil] at hfilter
    simp [hnil, textOf, Dialect.select, Dialect.hintComment, ← hfilter, StatementPart.text]
  · have hne : q.hints.filterMap mysql.hintItem ≠ [] := by
      intro h
      rw [← hfilter, List.filterMap_eq_nil_iff] at h
      obtain ⟨x, hx⟩ := List.exists_mem_of_ne_nil _ hnil
      obtain ⟨item, hitem⟩ := q.exists_item_of_mem_joinHints hx
      rw [h x hx] at hitem
      contradiction
    obtain ⟨item, rest, hcons⟩ := List.exists_cons_of_ne_nil hne
    simp [hnil, textOf, Dialect.select, Dialect.hintComment, hfilter, hcons, StatementPart.text,
      ← String.toList_inj]

theorem text_tableParts (before table : String) :
    textOf (q.tableParts before table) = before ++ mysql.tableRef q table := by
  have hclauses : mysql.indexClause = StatementPart.text ∘ .clause :=
    funext StatementPart.indexClause_eq
  simp [tableParts, textOf, StatementPart.text, Dialect.tableRef, Dialect.qualified, hclauses,
    String.join_cons]

theorem text_joinParts (j : Join) : textOf (q.joinParts j) = mysql.joinClause q j := by
  rw [joinParts, textOf_append, text_tableParts]
  simp [Dialect.joinClause, textOf, StatementPart.text, ← String.toList_inj]

theorem text_joins (joins : List Join) :
    textOf (joins.flatMap q.joinParts) = String.join (joins.map (mysql.joinClause q)) := by
  induction joins with
  | nil => rfl
  | cons j joins ih =>
    rw [List.flatMap_cons, textOf_append, text_joinParts, ih, List.map_cons, String.join_cons]

theorem text_parts : textOf q.parts = mysql.render q := by
  rw [parts, textOf_append, textOf_append, textOf_append, text_selectParts, text_tableParts,
    text_joins]
  simp [Dialect.render, textOf, StatementPart.text, ← String.toList_inj]

/-! ### Their tables and hints -/

/-- Nothing but text stands between the comment and the tables, between two tables and behind the
last. -/
theorem filterMap_parts {α : Type} {f : StatementPart → Option α}
    (hplain : ∀ s, f (.plain s) = none) :
    q.parts.filterMap f =
      (if q.joinHints = [] then [] else (f (.comment q.joinHints)).toList) ++
        q.tables.flatMap fun table =>
          (f (.reference table)).toList ++ (q.hintsFor table).filterMap (f ∘ .clause) := by
  have hselect : q.selectParts.filterMap f =
      if q.joinHints = [] then [] else (f (.comment q.joinHints)).toList := by
    unfold selectParts
    split
    · simp [hplain]
    · cases h : f (.comment q.joinHints) <;> simp [hplain, h]
  have htable (before table : String) : (q.tableParts before table).filterMap f =
      (f (.reference table)).toList ++ (q.hintsFor table).filterMap (f ∘ .clause) := by
    unfold tableParts
    cases h : f (.reference table) <;> simp [hplain, h]
  have hjoin (j : Join) : (q.joinParts j).filterMap f =
      (f (.reference j.table)).toList ++ (q.hintsFor j.table).filterMap (f ∘ .clause) := by
    rw [joinParts, List.filterMap_append, htable]
    simp [hplain]
  rw [parts, List.filterMap_append, List.filterMap_append, List.filterMap_append, hselect, htable,
    List.filterMap_flatMap, tables, List.flatMap_cons, List.flatMap_map]
  simp [hplain, hjoin]

theorem references_parts : q.parts.filterMap StatementPart.reference? = q.tables := by
  rw [q.filterMap_parts fun _ => rfl]
  simp [StatementPart.reference?, Function.comp_def]

theorem clauses_parts : q.parts.filterMap StatementPart.clause? = q.tables.flatMap q.hintsFor := by
  rw [q.filterMap_parts fun _ => rfl]
  simp [StatementPart.clause?, Function.comp_def]

theorem comments_parts :
    q.parts.filterMap StatementPart.comment? = if q.joinHints = [] then [] else [q.joinHints] := by
  rw [q.filterMap_parts fun _ => rfl]
  simp [StatementPart.comment?, Function.comp_def]

theorem leading_parts {hints : List Hint} (h : .comment hints ∈ q.parts) :
    ∃ rest, q.parts = .plain "SELECT " :: .comment hints :: rest := by
  have hcomment : hints ∈ q.parts.filterMap StatementPart.comment? :=
    List.mem_filterMap.2 ⟨_, h, rfl⟩
  rw [comments_parts] at hcomment
  split at hcomment
  · contradiction
  · next hne =>
    rw [List.mem_singleton.1 hcomment, parts, selectParts, if_neg hne]
    exact ⟨_, rfl⟩

/-- Without the parts for its hints a statement is that of the query without hints. -/
theorem filter_parts : q.parts.filter (!·.isForHints) = q.unhinted.parts := by
  have hclauses (hints : List Hint) :
      (hints.map StatementPart.clause).filter (!·.isForHints) = [] := by
    rw [List.filter_eq_nil_iff, List.forall_mem_map]
    intro h _
    exact Bool.false_ne_true
  have htable (before table : String) :
      (q.tableParts before table).filter (!·.isForHints) = q.unhinted.tableParts before table := by
    unfold tableParts
    rw [List.filter_cons_of_pos rfl, List.filter_cons_of_pos rfl, hclauses]
    rfl
  have hjoin (j : Join) :
      (q.joinParts j).filter (!·.isForHints) = q.unhinted.joinParts j := by
    rw [joinParts, List.filter_append, htable]
    rfl
  have hselect : q.selectParts.filter (!·.isForHints) = q.unhinted.selectParts := by
    unfold selectParts
    split <;> rfl
  rw [parts, List.filter_append, List.filter_append, List.filter_append, hselect, htable,
    List.filter_flatMap, funext hjoin]
  rfl

end

/-! ### Their order -/

/-- The parts are in order, and text comes first. -/
structure Settled (l : List StatementPart) : Prop where
  chain : l.IsChain StatementPart.Follows
  head : ∀ part ∈ l.head?, ∃ s, part = .plain s

theorem settled_nil : Settled [] where
  chain := .nil
  head := by simp

theorem settled_plain (s : String) : Settled [.plain s] where
  chain := .singleton _
  head := by simp

/-- Text may follow anything. -/
theorem Settled.append {l m : List StatementPart} (hl : Settled l) (hm : Settled m) :
    Settled (l ++ m) where
  chain := by
    apply hl.chain.append hm.chain
    intro a _ b hb
    obtain ⟨s, rfl⟩ := hm.head b hb
    exact .plain a s
  head := by
    cases l with
    | nil => exact hm.head
    | cons part l => exact hl.head

theorem Settled.flatMap {α : Type} {f : α → List StatementPart} {l : List α}
    (h : ∀ a ∈ l, Settled (f a)) : Settled (l.flatMap f) := by
  induction l with
  | nil => exact settled_nil
  | cons a l ih =>
    rw [List.forall_mem_cons] at h
    rw [List.flatMap_cons]
    exact h.1.append (ih h.2)

section

variable {q : Query} (hsingle : ∀ table, (q.hintsFor table).length ≤ 1)

include hsingle

/-- With one clause at most there is none behind another clause. -/
theorem settled_tableParts {before table : String}
    (h : StatementPart.Follows (.plain before) (.reference table)) :
    Settled (q.tableParts before table) := by
  have hfor : ∀ x ∈ q.hintsFor table, x.table? = some table := fun x hx =>
    Hint.isFor_iff.1 (List.mem_filter.1 hx).2
  have hlength := hsingle table
  refine ⟨?_, by simp [tableParts]⟩
  unfold tableParts
  cases hhints : q.hintsFor table with
  | nil => simpa using h
  | cons x rest =>
    rw [hhints] at hfor hlength
    obtain rfl : rest = [] := by simpa using hlength
    simpa using ⟨h, .clause (hfor x List.mem_cons_self)⟩

theorem settled_parts : Settled q.parts := by
  have hselect : Settled q.selectParts := by
    refine ⟨?_, by simp [selectParts]⟩
    unfold selectParts
    split
    · exact .singleton _
    · simpa using .comment _
  have hjoin (j : Join) : Settled (q.joinParts j) :=
    (settled_tableParts hsingle (.joined j.table)).append (settled_plain _)
  have hsource := settled_tableParts hsingle (.source (mysql.selectList q) q.source)
  have hjoins : Settled (q.joins.flatMap q.joinParts) := Settled.flatMap fun j _ => hjoin j
  exact ((hselect.append hsource).append hjoins).append (settled_plain _)

end

end Query

/-! ## Hints table by table -/

namespace Hint

variable {hints : List Hint} {names : List String}

theorem filter_isFor_eq_nil (h : hints.map table? ⊆ names.map some) {name : String}
    (hname : name ∉ names) : hints.filter (·.isFor name) = [] := by
  rw [List.filter_eq_nil_iff]
  intro x hx hfor
  have hmem := h (List.mem_map_of_mem hx)
  rw [isFor_iff.1 hfor, List.mem_map] at hmem
  obtain ⟨other, hother, heq⟩ := hmem
  exact hname (Option.some.inj heq ▸ hother)

/-- Hints on different tables in their order are found table by table. -/
theorem flatMap_filter_isFor (h : (hints.map table?).Sublist (names.map some))
    (hnames : names.Nodup) : names.flatMap (fun name => hints.filter (·.isFor name)) = hints := by
  induction names generalizing hints with
  | nil =>
    have hnil : hints = [] := by simpa using h
    rw [hnil]
    rfl
  | cons name names ih =>
    rw [List.nodup_cons] at hnames
    rw [List.map_cons, List.sublist_cons_iff] at h
    rcases h with h | ⟨tables, htables, h⟩
    · rw [List.flatMap_cons, filter_isFor_eq_nil h.subset hnames.1, List.nil_append, ih h hnames.2]
    · obtain ⟨x, rest, rfl, hx, rfl⟩ := List.map_eq_cons_iff.1 htables
      have hothers : names.flatMap (fun other => (x :: rest).filter (·.isFor other)) =
          names.flatMap fun other => rest.filter (·.isFor other) := by
        apply List.flatMap_congr
        intro other hother
        apply List.filter_cons_of_neg
        intro hfor
        have heq : name = other := Option.some.inj (hx.symm.trans (isFor_iff.1 hfor))
        exact hnames.1 (heq ▸ hother)
      rw [List.flatMap_cons, List.filter_cons_of_pos (isFor_iff.2 hx),
        filter_isFor_eq_nil h.subset hnames.1, hothers, ih h hnames.2]
      rfl

/-- No two of the hints are on one table. -/
theorem length_filter_isFor_le (h : (hints.map table?).Nodup) (name : String) :
    (hints.filter (·.isFor name)).length ≤ 1 := by
  have htables : (hints.filter (·.isFor name)).map table? =
      List.replicate (hints.filter (·.isFor name)).length (some name) := by
    rw [List.map_eq_replicate_iff]
    intro x hx
    exact isFor_iff.1 (List.mem_filter.1 hx).2
  have hsublist : (hints.filter (·.isFor name)).Sublist hints := List.filter_sublist
  have hnodup := (hsublist.map table?).nodup h
  rw [htables, List.nodup_replicate] at hnodup
  exact hnodup

end Hint

namespace Query

variable {s : Schema} {p : Parameters} {q : Query}

theorem hintsFor_eq (q : Query) (table : String) :
    q.hintsFor table = (q.hints.filter Hint.isIndexHint).filter (·.isFor table) := by
  rw [hintsFor, List.filter_filter]
  apply List.filter_congr
  intro h _
  by_cases hfor : h.isFor table = true
  · rw [hfor, Hint.isIndexHint_of_isFor hfor, Bool.and_true]
  · rw [Bool.not_eq_true] at hfor
    rw [hfor, Bool.false_and]

/-- The index hints are those that come first. -/
theorem Hinted.tables_of_index (h : q.Hinted s p) :
    ((q.hints.filter Hint.isIndexHint).map Hint.table?).Sublist (q.tables.map some) ∧
      ((q.hints.filter Hint.isIndexHint).map Hint.table?).Nodup := by
  obtain ⟨index, join, hsplit, hsublist, hnodup, hjoin⟩ := h.ordered
  have hindex : index.filter Hint.isIndexHint = index := by
    rw [List.filter_eq_self]
    intro x hx
    obtain ⟨table, -, htable⟩ := List.mem_map.1 (hsublist.subset (List.mem_map_of_mem hx))
    exact Hint.isIndexHint_of_isFor (Hint.isFor_iff.2 htable.symm)
  have hrest : join.filter Hint.isIndexHint = [] := by
    rcases hjoin with rfl | ⟨j, -, strategy, rfl⟩
    · rfl
    · rfl
  rw [hsplit, List.filter_append, hindex, hrest, List.append_nil]
  exact ⟨hsublist, hnodup⟩

theorem Hinted.flatMap_hintsFor (h : q.Hinted s p) (hq : q.tables.Nodup) :
    q.tables.flatMap q.hintsFor = q.hints.filter Hint.isIndexHint := by
  rw [funext q.hintsFor_eq]
  exact Hint.flatMap_filter_isFor h.tables_of_index.1 hq

theorem Hinted.length_hintsFor_le (h : q.Hinted s p) (table : String) :
    (q.hintsFor table).length ≤ 1 := by
  rw [hintsFor_eq]
  exact Hint.length_filter_isFor_le h.tables_of_index.2 table

theorem Hinted.placed (h : q.Hinted s p) (hq : q.tables.Nodup) : q.Placed where
  grouped := h.flatMap_hintsFor hq
  single := h.length_hintsFor_le
  text := q.text_parts
  references := q.references_parts
  clauses := q.clauses_parts.trans (h.flatMap_hintsFor hq)
  behind := (settled_parts h.length_hintsFor_le).chain
  comments := q.comments_parts
  leading := fun _ hcomment => q.leading_parts hcomment
  items := ⟨_, Dialect.map_hintCall_eq fun _ hh => q.exists_item_of_mem_joinHints hh⟩
  unhinted := q.filter_parts
  unhinted_text := by rw [filter_parts, text_parts]

end Query

namespace Generator

/-- MySQL has each hint of a generated query at its place. -/
theorem placed_of_mem_queries {s : Schema} (hs : s.WellKeyed) {p : Parameters} {g : Generator}
    (hg : start s (.build s) p = .ok g) : ∀ q ∈ g.queries, q.Placed := by
  intro q hq
  obtain ⟨anchor, tables, h⟩ := drawn_of_mem_queries hs hg hq
  exact (hinted_of_mem hg hs hq).placed (h.joinTree hs).nodup

/-- Hints of all kinds are asked for, and each query has one on how to join. -/
def hintingAll : Parameters :=
  { numQueries := 2, maxJoins := 3, seed := 3, indexHintProbability := .one
    noIndexHintProbability := .ofRatio 1 2, physicalOperatorHintProbability := .one }

theorem placed_of_mem_queries_shop :
    Schema.shop.WellKeyed ∧ ∃ g, start .shop (.build .shop) hintingAll = .ok g ∧
      ∃ q ∈ g.queries, q.hints = [.noIndex "customers", .useIndex "orders" "by_customer",
        .joinMethod "orders" "customers" .hash] ∧ q.Placed := by
  have hs : Schema.shop.WellKeyed := Schema.wellKeyed_analyzed _ _ _
  have hg : start .shop (.build .shop) hintingAll =
      .ok ⟨.shop, .build .shop, hintingAll.clamped, .ofSeed 3, 0⟩ :=
    start_eq_ok_iff.2 ⟨_, Parameters.checked_eq_ok_iff.2 ⟨by decide +kernel, rfl⟩, rfl⟩
  have hq : ∃ q ∈ queries ⟨.shop, .build .shop, hintingAll.clamped, .ofSeed 3, 0⟩,
      q.hints = [.noIndex "customers", .useIndex "orders" "by_customer",
        .joinMethod "orders" "customers" .hash] := by
    decide +kernel
  obtain ⟨q, hq, hhints⟩ := hq
  exact ⟨hs, _, hg, q, hq, hhints, placed_of_mem_queries hs hg q hq⟩

end Generator

end SqlWorkload
