import SqlWorkload.Analysis.Survey
import SqlWorkload.Proofs.JoinGraph.Incidence
/-!
# What a survey makes of the answers

A survey that comes to an end has made its tables from the answers about them, and every name in a
table was reported for it. The marking of keys, references and indexes changes columns one by one
and leaves their names as they are, so that what holds of each column before and after one change
holds of the whole table in the end.

    a survey of a table gives the table of its answers            (Table.survey_eq_ok)
    each column of such a table is as reported, and its name is there once
                                                                  (Table.surveyed_of_survey)
    a surveyed schema has the tables that the source listed, and these are made so
                                                                  (Schema.survey_eq_ok)
-/

namespace SqlWorkload

/-! ## Outcomes -/

namespace Survey

variable {α β : Type}

theorem bind_eq_ok_iff {x : Survey α} {f : α → Survey β} {b : β} :
    (x >>= f).outcome = .ok b ↔ ∃ a, x.outcome = .ok a ∧ (f a).outcome = .ok b := by
  cases h : x.outcome with
  | error e => simp [bind_error h]
  | ok a => simp [bind_ok h]

/-- An answer about a table is passed on, and a failure that leaves the connection is no answer. -/
theorem ask_eq_ok_iff {part : CatalogPart} {table : String} {answer : Except DatabaseError α}
    {a : Option α} :
    (ask part table answer).outcome = .ok a ↔
      answer.toOption = a ∧ ∀ e, answer = .error e → e.losesConnection = false := by
  unfold ask
  cases answer with
  | ok b => simp [Except.toOption]
  | error e =>
    simp only [AnalysisError.isConnectionFailed_iff]
    cases h : e.losesConnection <;> simp [Except.toOption, h]

theorem listTables_eq_ok_iff {answer : Except DatabaseError (List String)} {names : List String} :
    (listTables answer).outcome = .ok names ↔ answer = .ok names := by
  cases answer with
  | error e => exact ⟨nofun, nofun⟩
  | ok names' =>
    exact ⟨fun h => congrArg _ (Except.ok.inj h), fun h => congrArg _ (Except.ok.inj h)⟩

end Survey

/-- A row taken from an answer, if there is one, is in the answer. -/
theorem exists_answer {ε ρ : Type} {answer : Except ε (List ρ)} {r : ρ}
    (h : r ∈ answer.toOption.getD []) : ∃ rows, answer = .ok rows ∧ r ∈ rows := by
  cases answer with
  | error e => simp [Except.toOption] at h
  | ok rows => exact ⟨rows, rfl, h⟩

namespace Table

/-- The table that the answers make up when its columns are known. -/
def ofAnswers (source : CatalogSource) (name : String) (rows : List ColumnRow) : Table :=
  let t : Table := { name := name, space := source.space }
  let t := t.withColumns rows
  let t := t.withPrimaryKey ((source.primaryKey name).toOption.getD [])
  let t := t.withForeignKeys ((source.foreignKeys name).toOption.getD [])
  let t := t.withIndexes ((source.indexes name).toOption.getD [])
  { t with rowEstimate := (source.rowEstimate name).toOption.join }

theorem survey_eq_ok {source : CatalogSource} {name : String} {t : Table}
    (h : (survey source name).outcome = .ok t) :
    (∃ e, source.columns name = .error e ∧ t = { name := name, space := source.space }) ∨
      ∃ rows, source.columns name = .ok rows ∧ t = ofAnswers source name rows := by
  obtain ⟨columns, hc, h⟩ := Survey.bind_eq_ok_iff.1 h
  obtain ⟨rfl, -⟩ := Survey.ask_eq_ok_iff.1 hc
  cases hrows : source.columns name with
  | error e =>
    rw [hrows] at h
    cases h
    exact .inl ⟨e, rfl, rfl⟩
  | ok rows =>
    rw [hrows] at h
    obtain ⟨key, hk, h⟩ := Survey.bind_eq_ok_iff.1 h
    obtain ⟨foreignKeys, hf, h⟩ := Survey.bind_eq_ok_iff.1 h
    obtain ⟨indexes, hi, h⟩ := Survey.bind_eq_ok_iff.1 h
    obtain ⟨estimate, he, h⟩ := Survey.bind_eq_ok_iff.1 h
    obtain ⟨rfl, -⟩ := Survey.ask_eq_ok_iff.1 hk
    obtain ⟨rfl, -⟩ := Survey.ask_eq_ok_iff.1 hf
    obtain ⟨rfl, -⟩ := Survey.ask_eq_ok_iff.1 hi
    obtain ⟨rfl, -⟩ := Survey.ask_eq_ok_iff.1 he
    cases h
    exact .inr ⟨rows, rfl, rfl⟩

end Table

/-! ## Columns from rows -/

theorem nodup_dropRepeated (seen : List String) (rows : List ColumnRow) :
    ((dropRepeated seen rows).map (·.name)).Nodup ∧
      ∀ r ∈ dropRepeated seen rows, r ∈ rows ∧ r.name ∉ seen := by
  induction rows generalizing seen with
  | nil => simp [dropRepeated]
  | cons r rest ih =>
    rw [dropRepeated]
    split
    · refine ⟨(ih seen).1, fun d hd => ?_⟩
      obtain ⟨hmem, hnew⟩ := (ih seen).2 d hd
      exact ⟨List.mem_cons_of_mem _ hmem, hnew⟩
    · next hr =>
      obtain ⟨hnodup, hrest⟩ := ih (r.name :: seen)
      constructor
      · rw [List.map_cons, List.nodup_cons]
        refine ⟨fun hm => ?_, hnodup⟩
        obtain ⟨d, hd, hname⟩ := List.mem_map.1 hm
        exact (hrest d hd).2 (by simp [hname])
      · intro d hd
        rcases List.mem_cons.1 hd with rfl | hd
        · exact ⟨by simp, hr⟩
        · obtain ⟨hmem, hnew⟩ := hrest d hd
          exact ⟨List.mem_cons_of_mem _ hmem, fun h => hnew (List.mem_cons_of_mem _ h)⟩

theorem nodup_columnsOfRows (rows : List ColumnRow) :
    ((columnsOfRows rows).map (·.name)).Nodup := by
  have h := (nodup_dropRepeated [] (rows.mergeSort fun a b => a.ordinal ≤ b.ordinal)).1
  simpa [columnsOfRows, Function.comp_def, ColumnRow.column] using h

theorem mem_columnsOfRows {rows : List ColumnRow} {c : Column} (h : c ∈ columnsOfRows rows) :
    ∃ r ∈ rows, c = r.column := by
  obtain ⟨r, hr, rfl⟩ := List.mem_map.1 h
  exact ⟨r, by simpa using ((nodup_dropRepeated _ _).2 r hr).1, rfl⟩

namespace Table

/-- Appended columns are numbered on, and keep everything else. -/
theorem foldl_pushColumn (cs : List Column) (t : Table) :
    cs.foldl pushColumn t = { t with
      columns := t.columns ++
        cs.mapIdx fun i c => { c with ordinal := t.columns.length + i + 1 } } := by
  induction cs generalizing t with
  | nil => simp
  | cons c rest ih =>
    have hnumber (i : Nat) :
        t.columns.length + 1 + i + 1 = t.columns.length + (i + 1) + 1 := by omega
    rw [List.foldl_cons, ih, List.mapIdx_cons]
    simp [pushColumn, hnumber]

theorem columns_withColumns {t : Table} (ht : t.columns = []) (rows : List ColumnRow) :
    (t.withColumns rows).columns =
      (columnsOfRows rows).mapIdx fun i c => { c with ordinal := i + 1 } := by
  simp [withColumns, foldl_pushColumn, ht]

theorem withColumns_frame (t : Table) (rows : List ColumnRow) :
    (t.withColumns rows).name = t.name ∧ (t.withColumns rows).space = t.space := by
  simp [withColumns, foldl_pushColumn]

/-! ## Marks -/

/-- Marks put on columns by name, one for each row of an answer. -/
def marked {ρ : Type} (t : Table) (rows : List ρ) (name : ρ → String)
    (mark : ρ → Column → Column) : Table :=
  rows.foldl (fun t r => t.updateColumn (name r) (mark r)) t

/-- The marks that a key, a foreign key and an index row put on a column. -/
def markKey (_ : String) (c : Column) : Column := { c with isPrimaryKey := true }

def markReference (r : ForeignKeyRow) (c : Column) : Column := c.setReference r.target

def markIndex (r : IndexRow) (c : Column) : Column := c.addIndex ⟨r.name, r.isUnique⟩

theorem name_markKey (name : String) (c : Column) : (markKey name c).name = c.name := rfl

theorem name_markReference (r : ForeignKeyRow) (c : Column) : (markReference r c).name = c.name :=
  Column.name_setReference _ _

theorem name_markIndex (r : IndexRow) (c : Column) : (markIndex r c).name = c.name :=
  Column.name_addIndex _ _

theorem ofAnswers_eq (source : CatalogSource) (name : String) (rows : List ColumnRow) :
    ofAnswers source name rows =
      { (((({ name := name, space := source.space } : Table).withColumns rows).marked
          ((source.primaryKey name).toOption.getD []) id markKey).marked
          ((source.foreignKeys name).toOption.getD []) (·.column) markReference).marked
          ((source.indexes name).toOption.getD []) (·.column) markIndex with
        rowEstimate := (source.rowEstimate name).toOption.join } := rfl

end Table

theorem map_updateFirst {α β : Type} {p : α → Bool} {f : α → α} {g : α → β}
    (hf : ∀ a, g (f a) = g a) (l : List α) : (updateFirst p f l).map g = l.map g := by
  induction l with
  | nil => rfl
  | cons a rest ih =>
    rw [updateFirst]
    split
    · simp [hf]
    · simp [ih]

theorem forall_updateFirst {α : Type} {p : α → Bool} {f : α → α} {P : α → Prop} {l : List α}
    (hl : ∀ a ∈ l, P a) (hf : ∀ a, p a = true → P a → P (f a)) : ∀ a ∈ updateFirst p f l, P a := by
  induction l with
  | nil => simp [updateFirst]
  | cons b rest ih =>
    rw [List.forall_mem_cons] at hl
    rw [updateFirst]
    split
    · next hb => exact List.forall_mem_cons.2 ⟨hf b hb hl.1, hl.2⟩
    · exact List.forall_mem_cons.2 ⟨hl.1, ih hl.2⟩

namespace Table

section

variable {ρ : Type} {name : ρ → String} {mark : ρ → Column → Column}

/-- Marks are put on columns and on nothing else of the table. -/
theorem marked_frame (t : Table) (rows : List ρ) :
    (t.marked rows name mark).name = t.name ∧ (t.marked rows name mark).space = t.space := by
  induction rows generalizing t with
  | nil => exact ⟨rfl, rfl⟩
  | cons r rest ih => exact ih (t.updateColumn (name r) (mark r))

theorem names_marked (hm : ∀ r c, (mark r c).name = c.name) (t : Table) (rows : List ρ) :
    (t.marked rows name mark).columns.map (·.name) = t.columns.map (·.name) := by
  induction rows generalizing t with
  | nil => rfl
  | cons r rest ih => exact (ih _).trans (map_updateFirst (hm r) t.columns)

/-- What each mark keeps, holds of all columns after the marking if it held before. -/
theorem forall_marked {P : Column → Prop} {t : Table} {rows : List ρ}
    (ht : ∀ c ∈ t.columns, P c) (hm : ∀ r ∈ rows, ∀ c, c.name = name r → P c → P (mark r c)) :
    ∀ c ∈ (t.marked rows name mark).columns, P c := by
  induction rows generalizing t with
  | nil => exact ht
  | cons r rest ih =>
    refine ih ?_ fun d hd => hm d (List.mem_cons_of_mem _ hd)
    exact forall_updateFirst ht fun c hc => hm r List.mem_cons_self c (by simpa using hc)

end

/-- Where the names in a column of a table come from: its own from a row of the columns, its
reference from a foreign key of the column, and its indexes from rows about the column. -/
structure Reported (source : CatalogSource) (table : String) (c : Column) : Prop where
  column : ∃ rows, source.columns table = .ok rows ∧ ∃ r ∈ rows, r.name = c.name
  reference : ∀ target, c.references = some target →
    ∃ rows, source.foreignKeys table = .ok rows ∧ ⟨c.name, target⟩ ∈ rows
  index : ∀ i ∈ c.indexes, ∃ rows, source.indexes table = .ok rows ∧
    ∃ r ∈ rows, r.name = i.name ∧ r.column = c.name

section

variable {source : CatalogSource} {table : String} {c : Column}

theorem Reported.setReference {r : ForeignKeyRow}
    (hr : r ∈ (source.foreignKeys table).toOption.getD []) (hc : c.name = r.column)
    (h : Reported source table c) : Reported source table (c.setReference r.target) := by
  unfold Column.setReference
  split
  · refine ⟨h.column, ?_, h.index⟩
    rintro target ⟨⟩
    obtain ⟨rows, hrows, hr⟩ := exists_answer hr
    exact ⟨rows, hrows, hc ▸ hr⟩
  · exact h

theorem Reported.addIndex {r : IndexRow} (hr : r ∈ (source.indexes table).toOption.getD [])
    (hc : c.name = r.column) (h : Reported source table c) :
    Reported source table (c.addIndex ⟨r.name, r.isUnique⟩) := by
  refine ⟨h.column, h.reference, fun i hi => ?_⟩
  have hi : i ∈ c.indexes ∨ i = ⟨r.name, r.isUnique⟩ := by
    unfold Column.addIndex at hi
    dsimp only at hi
    split at hi
    · exact .inl hi
    · simpa using hi
  rcases hi with hi | rfl
  · exact h.index i hi
  · obtain ⟨rows, hrows, hr⟩ := exists_answer hr
    exact ⟨rows, hrows, r, hr, rfl, hc.symm⟩

end

/-! ## Tables -/

section

variable {source : CatalogSource} {name : String} {rows : List ColumnRow}

theorem ofAnswers_frame (source : CatalogSource) (name : String) (rows : List ColumnRow) :
    (ofAnswers source name rows).name = name ∧
      (ofAnswers source name rows).space = source.space := by
  simp only [ofAnswers_eq, marked_frame, withColumns_frame, and_self]

/-- Numbering columns leaves their names as they are. -/
theorem names_mapIdx (cs : List Column) (f : Nat → Nat) :
    (cs.mapIdx fun i c => { c with ordinal := f i }).map (·.name) = cs.map (·.name) := by
  apply List.ext_getElem (by simp)
  intro i h₁ h₂
  simp

theorem nodup_withColumns {t : Table} (ht : t.columns = []) (rows : List ColumnRow) :
    ((t.withColumns rows).columns.map (·.name)).Nodup := by
  rw [columns_withColumns ht, names_mapIdx]
  exact nodup_columnsOfRows rows

theorem nodup_ofAnswers : ((ofAnswers source name rows).columns.map (·.name)).Nodup := by
  simp only [ofAnswers_eq]
  rw [names_marked name_markIndex, names_marked name_markReference, names_marked name_markKey]
  exact nodup_withColumns rfl rows

theorem reported_ofAnswers (h : source.columns name = .ok rows) :
    ∀ c ∈ (ofAnswers source name rows).columns, Reported source name c := by
  simp only [ofAnswers_eq]
  refine forall_marked (forall_marked (forall_marked ?_ ?_) ?_) ?_
  · intro c hc
    rw [columns_withColumns rfl] at hc
    obtain ⟨i, hi, rfl⟩ := List.mem_mapIdx.1 hc
    obtain ⟨r, hr, hrow⟩ := mem_columnsOfRows (List.getElem_mem hi)
    rw [hrow]
    exact ⟨⟨rows, h, r, hr, rfl⟩, by simp [ColumnRow.column], by simp [ColumnRow.column]⟩
  · intro _ _ c _ hc
    exact ⟨hc.column, hc.reference, hc.index⟩
  · exact fun r hr c hname hc => hc.setReference hr hname
  · exact fun r hr c hname hc => hc.addIndex hr hname

end

/-- What holds of a table that a survey made of the answers of a source. -/
structure Surveyed (source : CatalogSource) (t : Table) : Prop where
  space_eq : t.space = source.space
  nodup : (t.columns.map (·.name)).Nodup
  reported : ∀ c ∈ t.columns, Reported source t.name c

theorem surveyed_of_survey {source : CatalogSource} {name : String} {t : Table}
    (h : (survey source name).outcome = .ok t) : t.name = name ∧ t.Surveyed source := by
  rcases survey_eq_ok h with ⟨e, -, rfl⟩ | ⟨rows, hrows, rfl⟩
  · exact ⟨rfl, rfl, by simp, by simp⟩
  · obtain ⟨hname, hspace⟩ := ofAnswers_frame source name rows
    refine ⟨hname, hspace, nodup_ofAnswers, ?_⟩
    rw [hname]
    exact reported_ofAnswers hrows

theorem surveyAll_eq_ok {source : CatalogSource} {names : List String} {tables : List Table}
    (h : (surveyAll source names).outcome = .ok tables) :
    tables.map (·.name) = names ∧ ∀ t ∈ tables, t.Surveyed source := by
  induction names generalizing tables with
  | nil => cases h; simp
  | cons name rest ih =>
    obtain ⟨t, ht, h⟩ := Survey.bind_eq_ok_iff.1 h
    obtain ⟨others, ho, h⟩ := Survey.bind_eq_ok_iff.1 h
    cases h
    obtain ⟨rfl, hsurveyed⟩ := surveyed_of_survey ht
    obtain ⟨hnames, hothers⟩ := ih ho
    exact ⟨by rw [List.map_cons, hnames], List.forall_mem_cons.2 ⟨hsurveyed, hothers⟩⟩

end Table

namespace Schema

theorem mem_values_analyzed {sourceName : String} {tables : List Table} {time : Calendar.Moment}
    {t : Table} (h : t ∈ (analyzed sourceName tables time).tables.values) : t ∈ tables := by
  have key : ∀ (tables : List Table) (s : Schema),
      t ∈ (tables.foldl insertTable s).tables.values → t ∈ s.tables.values ∨ t ∈ tables := by
    intro tables
    induction tables with
    | nil => exact fun s h => .inl h
    | cons u rest ih =>
      intro s h
      rcases ih (s.insertTable u) h with h | h
      · obtain ⟨e, he, rfl⟩ := List.mem_map.1 h
        rcases mem_insertEntry he with rfl | he
        · exact .inr List.mem_cons_self
        · exact .inl (List.mem_map_of_mem he)
      · exact .inr (List.mem_cons_of_mem _ h)
  rcases key tables { source := sourceName } h with h | h
  · simp [OrderedMap.values] at h
  · exact h

theorem mem_keys_analyzed {sourceName : String} {tables : List Table} {time : Calendar.Moment}
    {name : String} : name ∈ (analyzed sourceName tables time).tables.keys ↔
      name ∈ tables.map (·.name) := by
  have key : ∀ (tables : List Table) (s : Schema),
      name ∈ (tables.foldl insertTable s).tables.keys ↔
        name ∈ s.tables.keys ∨ name ∈ tables.map (·.name) := by
    intro tables
    induction tables with
    | nil => simp
    | cons u rest ih =>
      intro s
      have hinsert : name ∈ (s.insertTable u).tables.keys ↔ name = u.name ∨ name ∈ s.tables.keys :=
        OrderedMap.mem_keys_insert
      rw [List.foldl_cons, ih, hinsert, List.map_cons, List.mem_cons, or_assoc]
      exact or_left_comm
  exact (key tables { source := sourceName }).trans (by simp [OrderedMap.keys])

/-- A survey of a schema is one of the tables that are listed, each once and by name. -/
theorem survey_eq_ok_iff {sourceName : String} {source : CatalogSource} {time : Calendar.Moment}
    {s : Schema} :
    (survey sourceName source time).outcome = .ok s ↔
      ∃ names tables, source.tables = .ok names ∧
        (Table.surveyAll source (OrderedSet.ofList names).toList).outcome = .ok tables ∧
        analyzed sourceName tables time = s := by
  constructor
  · intro h
    obtain ⟨names, hnames, h⟩ := Survey.bind_eq_ok_iff.1 h
    obtain ⟨tables, htables, h⟩ := Survey.bind_eq_ok_iff.1 h
    exact ⟨names, tables, Survey.listTables_eq_ok_iff.1 hnames, htables, Except.ok.inj h⟩
  · rintro ⟨names, tables, hnames, htables, rfl⟩
    exact Survey.bind_eq_ok_iff.2 ⟨names, Survey.listTables_eq_ok_iff.2 hnames,
      Survey.bind_eq_ok_iff.2 ⟨tables, htables, rfl⟩⟩

/-- A surveyed schema stores the tables that the source listed under their names, each made of the
answers about it. -/
theorem survey_eq_ok {sourceName : String} {source : CatalogSource} {time : Calendar.Moment}
    {s : Schema} (h : (survey sourceName source time).outcome = .ok s) :
    s.WellKeyed ∧
      (∃ names, source.tables = .ok names ∧ ∀ name, name ∈ s.tables.keys ↔ name ∈ names) ∧
      ∀ t ∈ s.tables.values, t.Surveyed source := by
  obtain ⟨names, tables, hnames, htables, rfl⟩ := survey_eq_ok_iff.1 h
  obtain ⟨hmap, hsurveyed⟩ := Table.surveyAll_eq_ok htables
  refine ⟨wellKeyed_analyzed _ _ _, ⟨names, hnames, fun name => ?_⟩,
    fun t ht => hsurveyed t (mem_values_analyzed ht)⟩
  rw [mem_keys_analyzed, hmap, OrderedSet.mem_ofList]

end Schema

end SqlWorkload
