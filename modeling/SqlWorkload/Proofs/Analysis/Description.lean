import SqlWorkload.Proofs.Analysis.Provenance
import Mathlib.Data.List.Forall2
import Mathlib.Data.List.Induction
/-!
# What a surveyed schema says

A survey that comes to an end describes each listed table by the answers about that table alone. The
rows of an answer are worked through one by one, and each changes the column that it names; because
names are not repeated, a column has in the end what its own rows have made of it, one after the
other. So the last foreign key counts, and the first entry of an index.

    marking the columns of a table folds the rows about each column over it
                                                                  (Table.columns_marked)
    a surveyed table is made of the answers about it              (Table.madeOf_of_outcome)
    no other table is made of these answers                       (Table.MadeOf.unique)
    a surveyed schema has these tables for the names listed       (Schema.madeOf_of_survey)
-/

namespace SqlWorkload

/-! ## Descriptions -/

/-- What a source answers about one table. -/
structure TableAnswers where
  columns : Except DatabaseError (List ColumnRow)
  primaryKey : Except DatabaseError (List String)
  foreignKeys : Except DatabaseError (List ForeignKeyRow)
  indexes : Except DatabaseError (List IndexRow)
  rowEstimate : Except DatabaseError (Option Int)

def CatalogSource.answers (source : CatalogSource) (table : String) : TableAnswers :=
  ⟨source.columns table, source.primaryKey table, source.foreignKeys table, source.indexes table,
    source.rowEstimate table⟩

namespace TableAnswers

variable (a : TableAnswers)

/-- The columns that the key is said to have. -/
def keyNames : List String := a.primaryKey.toOption.getD []

/-- What a column is said to refer to, as far as table and column are named. -/
def targetsOf (column : String) : List ColumnRef :=
  (((a.foreignKeys.toOption.getD []).filter (·.column == column)).map (·.target)).filter fun r =>
    r.table != "" && r.column != ""

/-- The index rows about a column. -/
def indexRowsOf (column : String) : List IndexRow :=
  (a.indexes.toOption.getD []).filter (·.column == column)

end TableAnswers

/-- The column with what its own row tells of it. -/
def Column.bare (c : Column) : Column :=
  { c with
    ordinal := 0, isPrimaryKey := false, hasIndex := false, isUniqueIndex := false, indexes := []
    references := none }

/-- Nothing but its own row has told of the column. -/
structure Column.Unmarked (c : Column) : Prop where
  isPrimaryKey_eq : c.isPrimaryKey = false
  hasIndex_eq : c.hasIndex = false
  isUniqueIndex_eq : c.isUniqueIndex = false
  indexes_eq : c.indexes = []
  references_eq : c.references = none

/-- The marks of a column are those that the answers give it. Its reference is the last one; the
names of its indexes stand in the order in which they come up, each once and with what its first row
says. -/
structure Column.MarkedBy (c : Column) (a : TableAnswers) : Prop where
  isPrimaryKey_iff : c.isPrimaryKey = true ↔ c.name ∈ a.keyNames
  references_eq : c.references = (a.targetsOf c.name).getLast?
  names_indexes : c.indexes.map (·.name) = ((a.indexRowsOf c.name).map (·.name)).eraseDups
  isUnique_of_mem : ∀ i ∈ c.indexes,
    ((a.indexRowsOf c.name).find? (·.name == i.name)).map (·.isUnique) = some i.isUnique
  hasIndex_iff : c.hasIndex = true ↔ a.indexRowsOf c.name ≠ []
  isUniqueIndex_iff : c.isUniqueIndex = true ↔ ∃ r ∈ a.indexRowsOf c.name, r.isUnique = true

/-- The contents of a table are what the answers about it say. -/
structure Table.MadeOf (t : Table) (a : TableAnswers) : Prop where
  nodup : (t.columns.map (·.name)).Nodup
  ordinals_eq : t.columns.map (·.ordinal) = List.range' 1 t.columns.length
  of_error : ∀ e, a.columns = .error e → t.columns = [] ∧ t.rowEstimate = none
  of_ok : ∀ rows, a.columns = .ok rows →
    t.columns.map (·.bare) = columnsOfRows rows ∧ t.rowEstimate = a.rowEstimate.toOption.join
  marked : ∀ c ∈ t.columns, c.MarkedBy a

/-- The tables of a schema are those listed by the source, each under its name and made of the
answers about it; a table that is made of them is the one of that name. -/
structure Schema.MadeOf (s : Schema) (source : CatalogSource) : Prop where
  mem_keys_iff : ∀ name, name ∈ s.tables.keys ↔ source.Lists name
  table?_iff : ∀ name t, s.table? name = some t ↔
    source.Lists name ∧ t.name = name ∧ t.space = source.space ∧ t.MadeOf (source.answers name)

/-! ## Rows about one column -/

theorem ColumnRef.isNamed_eq (r : ColumnRef) : r.isNamed = (r.table != "" && r.column != "") := by
  rw [Bool.eq_iff_iff]
  simp [isNamed, ← Bool.not_eq_true, String.isEmpty_iff]

theorem eraseDups_append_singleton {α : Type} [DecidableEq α] (l : List α) (a : α) :
    (l ++ [a]).eraseDups = addNew l.eraseDups a := by
  rw [List.eraseDups_append, addNew]
  by_cases h : a ∈ l <;> simp [List.removeAll, List.mem_eraseDups, List.eraseDups_cons, h]

namespace Column

theorem foldl_markKey (names : List String) (c : Column) :
    names.foldl (fun c name => Table.markKey name c) c =
      { c with isPrimaryKey := c.isPrimaryKey || !names.isEmpty } := by
  induction names generalizing c with
  | nil => simp
  | cons name rest ih =>
    rw [List.foldl_cons, ih]
    simp [Table.markKey]

theorem foldl_markReference (rows : List ForeignKeyRow) (c : Column) :
    rows.foldl (fun c r => Table.markReference r c) c =
      { c with
        references := ((rows.map (·.target)).filter (·.isNamed)).getLast?.or c.references } := by
  induction rows generalizing c with
  | nil => simp
  | cons r rest ih =>
    rw [List.foldl_cons, ih, Table.markReference, setReference]
    cases h : r.target.isNamed with
    | true => cases hlast : ((rest.map (·.target)).filter (·.isNamed)).getLast? <;>
        simp [h, List.getLast?_cons, hlast]
    | false => simp [h]

theorem names_addIndex (c : Column) (i : ColumnIndex) :
    (c.addIndex i).indexes.map (·.name) = addNew (c.indexes.map (·.name)) i.name := by
  have hany : c.indexes.any (·.name == i.name) = true ↔ i.name ∈ c.indexes.map (·.name) := by
    simp
  unfold addIndex addNew
  by_cases h : i.name ∈ c.indexes.map (·.name)
  · rw [if_pos h, if_pos (hany.2 h)]
  · rw [if_neg h, if_neg fun hold => h (hany.1 hold), List.map_append, List.map_singleton]

/-- The column with the indexes of some rows. -/
def withIndexes (c : Column) (rows : List IndexRow) : Column :=
  rows.foldl (fun c r => Table.markIndex r c) c

theorem withIndexes_append_singleton (c : Column) (rows : List IndexRow) (r : IndexRow) :
    c.withIndexes (rows ++ [r]) = (c.withIndexes rows).addIndex ⟨r.name, r.isUnique⟩ := by
  simp [withIndexes, Table.markIndex]

theorem withIndexes_eq (c : Column) (rows : List IndexRow) :
    c.withIndexes rows =
      { c with
        hasIndex := c.hasIndex || !rows.isEmpty
        isUniqueIndex := c.isUniqueIndex || rows.any (·.isUnique)
        indexes := (c.withIndexes rows).indexes } := by
  induction rows generalizing c with
  | nil => simp [withIndexes]
  | cons r rest ih =>
    have hstep : c.withIndexes (r :: rest) =
        (c.addIndex ⟨r.name, r.isUnique⟩).withIndexes rest := rfl
    rw [hstep, ih]
    simp [addIndex, Bool.or_assoc]

/-- The induction adds one row more at the end, which is a new name or one that came up before. -/
theorem names_withIndexes {c : Column} (hc : c.indexes = []) (rows : List IndexRow) :
    (c.withIndexes rows).indexes.map (·.name) = (rows.map (·.name)).eraseDups := by
  induction rows using List.reverseRecOn with
  | nil => simp [withIndexes, hc]
  | append_singleton rows r ih =>
    rw [withIndexes_append_singleton, List.map_append, List.map_singleton,
      eraseDups_append_singleton, ← ih]
    exact names_addIndex _ _

theorem isUnique_withIndexes {c : Column} (hc : c.indexes = []) (rows : List IndexRow) :
    ∀ i ∈ (c.withIndexes rows).indexes,
      (rows.find? (·.name == i.name)).map (·.isUnique) = some i.isUnique := by
  induction rows using List.reverseRecOn with
  | nil => simp [withIndexes, hc]
  | append_singleton rows r ih =>
    have hnames := names_withIndexes hc rows
    intro i hi
    rw [withIndexes_append_singleton, addIndex] at hi
    dsimp only at hi
    split at hi
    · rw [List.find?_append, Option.map_or, ih i hi, Option.some_or]
    · next hnew =>
      rcases List.mem_append.1 hi with hi | hi
      · rw [List.find?_append, Option.map_or, ih i hi, Option.some_or]
      · obtain rfl := List.mem_singleton.1 hi
        have hnone : rows.find? (·.name == r.name) = none := by
          rw [List.find?_eq_none]
          intro d hd heq
          refine hnew (List.any_eq_true.2 ?_)
          have hmem : d.name ∈ (c.withIndexes rows).indexes.map (·.name) := by
            rw [hnames, List.mem_eraseDups]
            exact List.mem_map_of_mem hd
          obtain ⟨j, hj, hname⟩ := List.mem_map.1 hmem
          exact ⟨j, hj, by simpa [hname] using heq⟩
        simp [List.find?_append, hnone]

end Column

/-! ## Rows about one table -/

namespace Table

theorem updateFirst_eq_map {cs : List Column} (hd : (cs.map (·.name)).Nodup) (name : String)
    (f : Column → Column) :
    updateFirst (·.name == name) f cs = cs.map fun c => if c.name = name then f c else c := by
  induction cs with
  | nil => rfl
  | cons c rest ih =>
    rw [List.map_cons, List.nodup_cons] at hd
    rw [updateFirst, List.map_cons]
    by_cases h : c.name = name
    · have hrest : (rest.map fun d => if d.name = name then f d else d) = rest.map id :=
        List.map_congr_left fun d hmem =>
          if_neg fun hd' : d.name = name => hd.1 (h.trans hd'.symm ▸ List.mem_map_of_mem hmem)
      simp [h, hrest]
    · simp [h, ih hd.2]

section

variable {ρ : Type} {name : ρ → String} {mark : ρ → Column → Column}

/-- With names that are not repeated, each column is marked by the rows about it. -/
theorem columns_marked (hm : ∀ r c, (mark r c).name = c.name) {t : Table}
    (hd : (t.columns.map (·.name)).Nodup) (rows : List ρ) :
    (t.marked rows name mark).columns =
      t.columns.map fun c => (rows.filter (name · == c.name)).foldl (fun c r => mark r c) c := by
  induction rows generalizing t with
  | nil => simp [marked]
  | cons r rest ih =>
    have hd' : ((t.updateColumn (name r) (mark r)).columns.map (·.name)).Nodup := by
      rw [updateColumn, map_updateFirst (hm r)]
      exact hd
    have hstep : t.marked (r :: rest) name mark =
        (t.updateColumn (name r) (mark r)).marked rest name mark := rfl
    rw [hstep, ih hd', updateColumn, updateFirst_eq_map hd, List.map_map]
    refine List.map_congr_left fun c _ => ?_
    by_cases h : c.name = name r
    · simp [h, hm]
    · simp [h, Ne.symm h]

end

/-! ## Tables of answers -/

end Table

namespace TableAnswers

/-- What the answers make of a column. -/
def mark (a : TableAnswers) (c : Column) : Column :=
  { c with
    isPrimaryKey := c.isPrimaryKey || !(a.keyNames.filter (· == c.name)).isEmpty
    references := (a.targetsOf c.name).getLast?.or c.references }.withIndexes (a.indexRowsOf c.name)

variable (a : TableAnswers) (c : Column)

theorem name_mark : (a.mark c).name = c.name := by rw [mark, Column.withIndexes_eq]

theorem ordinal_mark : (a.mark c).ordinal = c.ordinal := by rw [mark, Column.withIndexes_eq]

theorem bare_mark : (a.mark c).bare = c.bare := by
  rw [mark, Column.withIndexes_eq]
  rfl

theorem markedBy_mark {c : Column} (hc : c.Unmarked) : (a.mark c).MarkedBy a := by
  constructor
  · rw [name_mark, mark, Column.withIndexes_eq]
    simp [hc.isPrimaryKey_eq]
  · rw [name_mark, mark, Column.withIndexes_eq]
    simp [hc.references_eq]
  · rw [name_mark]
    exact Column.names_withIndexes (by exact hc.indexes_eq) _
  · rw [name_mark]
    exact Column.isUnique_withIndexes (by exact hc.indexes_eq) _
  · rw [name_mark, mark, Column.withIndexes_eq]
    simp [hc.hasIndex_eq]
  · rw [name_mark, mark, Column.withIndexes_eq]
    simp [hc.isUniqueIndex_eq]

end TableAnswers

namespace Table

theorem columns_ofAnswers (source : CatalogSource) (name : String) (rows : List ColumnRow) :
    (ofAnswers source name rows).columns =
      ((columnsOfRows rows).mapIdx fun i c => { c with ordinal := i + 1 }).map
        (source.answers name).mark := by
  have hnodup := nodup_withColumns (t := { name := name, space := source.space }) rfl rows
  simp only [ofAnswers_eq]
  rw [columns_marked name_markIndex, columns_marked name_markReference,
    columns_marked name_markKey hnodup, columns_withColumns rfl, List.map_map, List.map_map]
  · refine List.map_congr_left fun c _ => ?_
    simp only [Function.comp_apply, Column.foldl_markKey, Column.foldl_markReference,
      ColumnRef.isNamed_eq]
    rfl
  · rw [names_marked name_markKey]
    exact hnodup
  · rw [names_marked name_markReference, names_marked name_markKey]
    exact hnodup

theorem bare_columnsOfRows {rows : List ColumnRow} {c : Column} (h : c ∈ columnsOfRows rows) :
    c.bare = c := by
  obtain ⟨r, -, rfl⟩ := mem_columnsOfRows h
  rfl

theorem unmarked_columnsOfRows {rows : List ColumnRow} {c : Column} (h : c ∈ columnsOfRows rows) :
    c.Unmarked := by
  obtain ⟨r, -, rfl⟩ := mem_columnsOfRows h
  exact ⟨rfl, rfl, rfl, rfl, rfl⟩

theorem madeOf_ofAnswers {source : CatalogSource} {name : String} {rows : List ColumnRow}
    (h : source.columns name = .ok rows) :
    (ofAnswers source name rows).MadeOf (source.answers name) := by
  have hcolumns := columns_ofAnswers source name rows
  have hok : (source.answers name).columns = .ok rows := h
  refine ⟨nodup_ofAnswers, ?_, fun e he => ?_, fun rows' hrows => ⟨?_, rfl⟩, fun c hc => ?_⟩
  · rw [hcolumns]
    apply List.ext_getElem
    · simp
    · intro i h₁ h₂
      simp [TableAnswers.ordinal_mark, Nat.add_comm]
  · rw [hok] at he
    contradiction
  · rw [hok] at hrows
    cases hrows
    rw [hcolumns]
    apply List.ext_getElem
    · simp
    · intro i h₁ h₂
      have hbare := bare_columnsOfRows (List.getElem_mem h₂)
      simp only [List.getElem_map, List.getElem_mapIdx, TableAnswers.bare_mark]
      exact hbare
  · rw [hcolumns] at hc
    obtain ⟨d, hd, rfl⟩ := List.mem_map.1 hc
    obtain ⟨i, hi, rfl⟩ := List.mem_mapIdx.1 hd
    obtain ⟨hkey, hindexed, hunique, hindexes, hreferences⟩ :=
      unmarked_columnsOfRows (List.getElem_mem hi)
    exact TableAnswers.markedBy_mark _ ⟨hkey, hindexed, hunique, hindexes, hreferences⟩

/-- A table whose columns are not known is made of its answers, whatever else they say. -/
theorem madeOf_empty {source : CatalogSource} {name : String} {e : DatabaseError}
    (h : source.columns name = .error e) :
    ({ name := name, space := source.space } : Table).MadeOf (source.answers name) := by
  have herror : (source.answers name).columns = .error e := h
  refine ⟨.nil, rfl, fun _ _ => ⟨rfl, rfl⟩, fun rows hrows => ?_, by simp⟩
  rw [herror] at hrows
  contradiction

theorem madeOf_of_outcome {source : CatalogSource} {name : String} {t : Table}
    (h : (survey source name).outcome = .ok t) :
    t.name = name ∧ t.space = source.space ∧ t.MadeOf (source.answers name) := by
  rcases survey_eq_ok h with ⟨e, he, rfl⟩ | ⟨rows, hrows, rfl⟩
  · exact ⟨rfl, rfl, madeOf_empty he⟩
  · obtain ⟨hname, hspace⟩ := ofAnswers_frame source name rows
    exact ⟨hname, hspace, madeOf_ofAnswers hrows⟩

end Table

/-! ## Only one table is made of given answers -/

/-- Indexes are told apart by what their names stand for. -/
theorem indexes_eq_of_names_eq {l l' : List ColumnIndex} (unique : String → Option Bool)
    (hnames : l.map (·.name) = l'.map (·.name)) (h : ∀ i ∈ l, unique i.name = some i.isUnique)
    (h' : ∀ i ∈ l', unique i.name = some i.isUnique) : l = l' := by
  have hlength : l.length = l'.length := by simpa using congrArg List.length hnames
  apply List.ext_getElem hlength
  intro k h₁ h₂
  have hname : l[k].name = l'[k].name := by
    simpa [h₁, h₂] using congrArg (·[k]?) hnames
  have hunique : l[k].isUnique = l'[k].isUnique := by
    have hk := h _ (List.getElem_mem h₁)
    rw [hname, h' _ (List.getElem_mem h₂)] at hk
    exact (Option.some.inj hk).symm
  cases hi : l[k]
  cases hj : l'[k]
  simp_all

/-- Two sets of answers that mark columns alike, their indexes apart. -/
structure TableAnswers.SameMarks (a b : TableAnswers) : Prop where
  mem_keyNames_iff : ∀ column, column ∈ a.keyNames ↔ column ∈ b.keyNames
  targetsOf_eq : ∀ column, a.targetsOf column = b.targetsOf column
  mem_indexRowsOf_iff : ∀ column r, r ∈ a.indexRowsOf column ↔ r ∈ b.indexRowsOf column

theorem TableAnswers.SameMarks.refl (a : TableAnswers) : a.SameMarks a :=
  ⟨fun _ => .rfl, fun _ => rfl, fun _ _ => .rfl⟩

/-- Columns that were reported alike and marked alike differ in the list of their indexes only. -/
theorem Column.MarkedBy.eq_up_to_indexes {a b : TableAnswers} {c d : Column} (hc : c.MarkedBy a)
    (hd : d.MarkedBy b) (h : a.SameMarks b) (hbare : c.bare = d.bare)
    (hordinal : c.ordinal = d.ordinal) : { c with indexes := d.indexes } = d := by
  have hname : c.name = d.name := congrArg (·.name) hbare
  have hkey : c.isPrimaryKey = d.isPrimaryKey := by
    rw [Bool.eq_iff_iff, hc.isPrimaryKey_iff, hd.isPrimaryKey_iff, hname, h.mem_keyNames_iff]
  have hindexed : c.hasIndex = d.hasIndex := by
    rw [Bool.eq_iff_iff, hc.hasIndex_iff, hd.hasIndex_iff, hname]
    simp only [ne_eq, List.eq_nil_iff_forall_not_mem, h.mem_indexRowsOf_iff]
  have hunique : c.isUniqueIndex = d.isUniqueIndex := by
    rw [Bool.eq_iff_iff, hc.isUniqueIndex_iff, hd.isUniqueIndex_iff, hname]
    simp only [h.mem_indexRowsOf_iff]
  have hreferences : c.references = d.references := by
    rw [hc.references_eq, hd.references_eq, hname, h.targetsOf_eq]
  cases c
  cases d
  simp_all [Column.bare]

theorem Column.MarkedBy.indexes_eq {a b : TableAnswers} {c d : Column} (hc : c.MarkedBy a)
    (hd : d.MarkedBy b) (h : a.indexRowsOf c.name = b.indexRowsOf d.name) :
    c.indexes = d.indexes := by
  have hfirst := hc.isUnique_of_mem
  have hnames := hc.names_indexes
  rw [h] at hfirst hnames
  exact indexes_eq_of_names_eq
    (fun name => ((b.indexRowsOf d.name).find? (·.name == name)).map (·.isUnique))
    (hnames.trans hd.names_indexes.symm) hfirst hd.isUnique_of_mem

theorem Column.MarkedBy.unique {a : TableAnswers} {c d : Column} (hc : c.MarkedBy a)
    (hd : d.MarkedBy a) (hbare : c.bare = d.bare) (hordinal : c.ordinal = d.ordinal) : c = d := by
  have hname : c.name = d.name := congrArg (·.name) hbare
  have hindexes := hc.indexes_eq hd (congrArg a.indexRowsOf hname)
  calc c = { c with indexes := d.indexes } := by rw [← hindexes]
    _ = d := hc.eq_up_to_indexes hd (.refl a) hbare hordinal

/-- Tables whose columns were reported alike have the same columns side by side, each marked by the
answers about its own table. -/
theorem Table.MadeOf.forall₂ {a b : TableAnswers} {t u : Table} (ht : t.MadeOf a) (hu : u.MadeOf b)
    (hrows : a.columns.map columnsOfRows = b.columns.map columnsOfRows)
    (hestimate : a.rowEstimate = b.rowEstimate) :
    t.rowEstimate = u.rowEstimate ∧
      List.Forall₂
        (fun c d => c.bare = d.bare ∧ c.ordinal = d.ordinal ∧ c.MarkedBy a ∧ d.MarkedBy b)
        t.columns u.columns := by
  have hcontents : t.columns.map (·.bare) = u.columns.map (·.bare) ∧
      t.rowEstimate = u.rowEstimate := by
    cases ha : a.columns <;> cases hb : b.columns <;> simp only [ha, hb, Except.map] at hrows
    · obtain ⟨htcolumns, htestimate⟩ := ht.of_error _ ha
      obtain ⟨hucolumns, huestimate⟩ := hu.of_error _ hb
      exact ⟨by rw [htcolumns, hucolumns], htestimate.trans huestimate.symm⟩
    · contradiction
    · contradiction
    · obtain ⟨htbare, htestimate⟩ := ht.of_ok _ ha
      obtain ⟨hubare, huestimate⟩ := hu.of_ok _ hb
      rw [Except.ok.injEq] at hrows
      exact ⟨by rw [htbare, hubare, hrows], by rw [htestimate, huestimate, hestimate]⟩
  obtain ⟨hbare, hestimates⟩ := hcontents
  have hlength : t.columns.length = u.columns.length := by
    simpa using congrArg List.length hbare
  have hordinals : t.columns.map (·.ordinal) = u.columns.map (·.ordinal) := by
    rw [ht.ordinals_eq, hu.ordinals_eq, hlength]
  refine ⟨hestimates, List.forall₂_iff_get.2 ⟨hlength, fun k h₁ h₂ => ⟨?_, ?_, ?_, ?_⟩⟩⟩
  · simpa [h₁, h₂] using congrArg (·[k]?) hbare
  · simpa [h₁, h₂] using congrArg (·[k]?) hordinals
  · exact ht.marked _ (List.get_mem _ _)
  · exact hu.marked _ (List.get_mem _ _)

theorem Table.MadeOf.unique {a : TableAnswers} {t u : Table} (ht : t.MadeOf a) (hu : u.MadeOf a)
    (hname : t.name = u.name) (hspace : t.space = u.space) : t = u := by
  obtain ⟨hestimate, hpairs⟩ := ht.forall₂ hu rfl rfl
  have hcolumns : t.columns = u.columns := by
    rw [← List.forall₂_eq_eq_eq]
    exact hpairs.imp fun c d ⟨hbare, hordinal, hc, hd⟩ => hc.unique hd hbare hordinal
  cases t
  cases u
  simp_all

/-! ## Schemas -/

namespace Table

/-- All that is asked about a table is asked under its name. -/
theorem mem_of_surveyAll {source : CatalogSource} {names : List String} {tables : List Table}
    (h : (surveyAll source names).outcome = .ok tables) :
    ∀ t ∈ tables, t.space = source.space ∧ t.MadeOf (source.answers t.name) := by
  induction names generalizing tables with
  | nil => cases h; simp
  | cons name rest ih =>
    obtain ⟨t, ht, h⟩ := Survey.bind_eq_ok_iff.1 h
    obtain ⟨others, ho, h⟩ := Survey.bind_eq_ok_iff.1 h
    cases h
    obtain ⟨rfl, hmade⟩ := madeOf_of_outcome ht
    exact List.forall_mem_cons.2 ⟨hmade, ih ho⟩

end Table

namespace Schema

/-- The tables found are stored as they are, because there is one for each name. -/
theorem madeOf_analyzed {source : CatalogSource} {names : List String} {tables : List Table}
    (hnames : source.tables = .ok names)
    (htables : (Table.surveyAll source (OrderedSet.ofList names).toList).outcome = .ok tables)
    (sourceName : String) (time : Calendar.Moment) :
    (analyzed sourceName tables time).MadeOf source := by
  have hlists (name : String) : name ∈ (analyzed sourceName tables time).tables.keys ↔
      source.Lists name := by
    rw [mem_keys_analyzed, (Table.surveyAll_eq_ok htables).1, OrderedSet.mem_ofList]
    refine ⟨fun hm => ⟨names, hnames, hm⟩, fun ⟨l, hl, hm⟩ => ?_⟩
    rw [hnames] at hl
    cases hl
    exact hm
  have hmade {name : String} {t : Table}
      (ht : (analyzed sourceName tables time).table? name = some t) :
      t.name = name ∧ t.space = source.space ∧ t.MadeOf (source.answers name) := by
    have hname := (wellKeyed_analyzed sourceName tables time).name_eq ht
    obtain ⟨hspace, hanswers⟩ := Table.mem_of_surveyAll htables t
      (mem_values_analyzed (mem_values_of_table? ht))
    exact ⟨hname, hspace, hname ▸ hanswers⟩
  refine ⟨hlists, fun name t => ⟨fun ht => ?_, ?_⟩⟩
  · exact ⟨(hlists name).1 (mem_tables_iff.2 ⟨t, ht⟩), hmade ht⟩
  · rintro ⟨hlisted, hname, hspace, hanswers⟩
    obtain ⟨u, hu⟩ := mem_tables_iff.1 ((hlists name).2 hlisted)
    obtain ⟨huname, huspace, huanswers⟩ := hmade hu
    rw [hu, hanswers.unique huanswers (hname.trans huname.symm) (hspace.trans huspace.symm)]

theorem madeOf_of_survey {sourceName : String} {source : CatalogSource} {time : Calendar.Moment}
    {s : Schema} (h : (survey sourceName source time).outcome = .ok s) : s.MadeOf source := by
  obtain ⟨names, tables, hnames, htables, rfl⟩ := survey_eq_ok_iff.1 h
  exact madeOf_analyzed hnames htables sourceName time

theorem madeOf_of_survey_untidy :
    ∃ s, (survey "shop" .untidy (.newYear 2024)).outcome = .ok s ∧ s.MadeOf .untidy := by
  have hok : (survey "shop" .untidy (.newYear 2024)).outcome.isOk = true := by decide +kernel
  cases h : (survey "shop" .untidy (.newYear 2024)).outcome with
  | error e =>
    rw [h] at hok
    contradiction
  | ok s => exact ⟨s, rfl, madeOf_of_survey h⟩

end Schema

end SqlWorkload
