import SqlWorkload.Proofs.Analysis.Order
/-!
# Columns and their rows

Which rows of a catalog become the columns of a table. Rows are ordered by their ordinals, and rows
with one ordinal by their positions, since the sort is stable; of the rows with one name the first
in this order becomes a column. Each row is looked at with its position, so that no two are the
same and the order is strict.

    rows sorted by ordinals are in strict order with their positions
                                                                  (pairwise_earlier_mergeSort)
    the rows without repeated names are the first rows of theirs  (exists_firsts)
    a table with the columns of some rows is laid out by them     (layout_withColumns)
-/

namespace SqlWorkload

/-! ## Definitions -/

/-- The first row, given with its position, comes before the second: it has a smaller ordinal, or
the same and stands in front. -/
def Earlier (a b : ColumnRow × Nat) : Prop :=
  a.1.ordinal < b.1.ordinal ∨ a.1.ordinal = b.1.ordinal ∧ a.2 < b.2

/-- A row, with its position, that comes before all others of its name. -/
@[mk_iff]
structure IsFirst (rows : List ColumnRow) (a : ColumnRow × Nat) : Prop where
  mem : a ∈ rows.zipIdx
  earlier : ∀ b ∈ rows.zipIdx, b.1.name = a.1.name → b = a ∨ Earlier a b

/-- The column is what the row says and nothing else; its length is kept if it is a 32-bit number. -/
structure Column.TakenFrom (c : Column) (r : ColumnRow) : Prop where
  name_eq : c.name = r.name
  dataType_eq : c.dataType = r.dataType
  isNullable_eq : c.isNullable = r.isNullable
  isAutoIncrement_eq : c.isAutoIncrement = r.isAutoIncrement
  maxLength_iff : ∀ n, c.maxLength = some n ↔
    r.maxLength = some n ∧ -2147483648 ≤ n ∧ n ≤ 2147483647
  unmarked : c.Unmarked

/-- The columns of a table come from the first rows of their names, in the order of these rows. -/
structure Table.LaidOut (t : Table) (rows : List ColumnRow) : Prop where
  nodup : (t.columns.map (·.name)).Nodup
  mem_names_iff : ∀ name, name ∈ t.columns.map (·.name) ↔ name ∈ rows.map (·.name)
  ordinals_eq : t.columns.map (·.ordinal) = List.range' 1 t.columns.length
  ordinal_lt : ∀ c ∈ t.columns, c.ordinal < UInt32.size
  firsts : ∃ firsts : List (ColumnRow × Nat), firsts.Pairwise Earlier ∧
    (∀ a, a ∈ firsts ↔ IsFirst rows a) ∧
    List.Forall₂ (fun c a => Column.TakenFrom c a.1) t.columns firsts

/-! ## The order of rows -/

theorem Earlier.asymm {a b : ColumnRow × Nat} (h : Earlier a b) : ¬Earlier b a := by
  unfold Earlier at *
  omega

/-- A stable sort by ordinals is a sort by ordinals and positions. -/
theorem pairwise_earlier_mergeSort (rows : List ColumnRow) :
    (rows.zipIdx.mergeSort (List.zipIdxLE fun r s => r.ordinal ≤ s.ordinal)).Pairwise Earlier := by
  have htrans (r s t : ColumnRow) (hrs : decide (r.ordinal ≤ s.ordinal) = true)
      (hst : decide (s.ordinal ≤ t.ordinal) = true) : decide (r.ordinal ≤ t.ordinal) = true := by
    rw [decide_eq_true_eq] at *
    exact Int.le_trans hrs hst
  have htotal (r s : ColumnRow) :
      (decide (r.ordinal ≤ s.ordinal) || decide (s.ordinal ≤ r.ordinal)) = true := by
    simpa using Int.le_total r.ordinal s.ordinal
  have hpositions : ((rows.zipIdx.mergeSort
      (List.zipIdxLE fun r s => r.ordinal ≤ s.ordinal)).map (·.2)).Nodup := by
    rw [((List.mergeSort_perm _ _).map _).nodup_iff, List.zipIdx_map_snd]
    exact List.nodup_range'
  refine ((List.pairwise_mergeSort (List.zipIdxLE_trans htrans) (List.zipIdxLE_total htotal)
    rows.zipIdx).and (List.pairwise_map.1 hpositions)).imp fun {a b} ⟨hle, hne⟩ => ?_
  unfold Earlier
  simp only [List.zipIdxLE, decide_eq_true_eq] at hle
  split at hle
  · split at hle
    · simp only [decide_eq_true_eq] at hle
      omega
    · omega
  · contradiction

/-- What is left of rows in their order, when names are not repeated, are the first rows of names
that have not been seen. The induction meets a row before all rows that come after it. -/
theorem exists_firsts {placed : List (ColumnRow × Nat)} (h : placed.Pairwise Earlier)
    (seen : List String) :
    ∃ firsts : List (ColumnRow × Nat), firsts.Sublist placed ∧
      firsts.map (·.1) = dropRepeated seen (placed.map (·.1)) ∧
      ∀ a, a ∈ firsts ↔ a.1.name ∉ seen ∧ a ∈ placed ∧
        ∀ b ∈ placed, b.1.name = a.1.name → b = a ∨ Earlier a b := by
  induction placed generalizing seen with
  | nil => exact ⟨[], .slnil, rfl, fun a => by simp⟩
  | cons d rest ih =>
    obtain ⟨hd, hrest⟩ := List.pairwise_cons.1 h
    rw [List.map_cons, dropRepeated]
    split
    · next hseen =>
      obtain ⟨firsts, hsub, hmap, hmem⟩ := ih hrest seen
      refine ⟨firsts, hsub.cons d, hmap, fun a => ?_⟩
      rw [hmem, List.forall_mem_cons, List.mem_cons]
      grind
    · next hnew =>
      obtain ⟨firsts, hsub, hmap, hmem⟩ := ih hrest (d.1.name :: seen)
      refine ⟨d :: firsts, hsub.cons_cons d, by rw [List.map_cons, hmap], fun a => ?_⟩
      have hasymm := fun hda : Earlier d a => hda.asymm
      rw [List.mem_cons, hmem, List.forall_mem_cons, List.mem_cons]
      grind

theorem mem_names_dropRepeated {seen : List String} {rows : List ColumnRow} {name : String} :
    name ∈ (dropRepeated seen rows).map (·.name) ↔
      name ∉ seen ∧ name ∈ rows.map (·.name) := by
  induction rows generalizing seen with
  | nil => simp [dropRepeated]
  | cons r rest ih =>
    rw [dropRepeated]
    split
    · rw [ih, List.map_cons, List.mem_cons]
      grind
    · rw [List.map_cons, List.mem_cons, ih, List.map_cons, List.mem_cons, List.mem_cons]
      grind

/-! ## Columns -/

theorem takenFrom_column (r : ColumnRow) : r.column.TakenFrom r where
  name_eq := rfl
  dataType_eq := rfl
  isNullable_eq := rfl
  isAutoIncrement_eq := rfl
  maxLength_iff n := by
    have hmin : Int32.minValue.toInt = -2147483648 := by decide
    have hmax : Int32.maxValue.toInt = 2147483647 := by decide
    rw [ColumnRow.column, Option.filter_eq_some_iff, hmin, hmax]
    simp
  unmarked := ⟨rfl, rfl, rfl, rfl, rfl⟩

/-- The ordinal says nothing of the row. -/
theorem Column.TakenFrom.withOrdinal {c : Column} {r : ColumnRow} (h : c.TakenFrom r) (n : Nat) :
    Column.TakenFrom { c with ordinal := n } r :=
  ⟨h.name_eq, h.dataType_eq, h.isNullable_eq, h.isAutoIncrement_eq, h.maxLength_iff,
    ⟨h.unmarked.isPrimaryKey_eq, h.unmarked.hasIndex_eq, h.unmarked.isUniqueIndex_eq,
      h.unmarked.indexes_eq, h.unmarked.references_eq⟩⟩

namespace Table

variable {t : Table} (ht : t.columns = []) (rows : List ColumnRow)

include ht

theorem ordinals_withColumns : (t.withColumns rows).columns.map (·.ordinal) =
    List.range' 1 (t.withColumns rows).columns.length := by
  rw [columns_withColumns ht]
  refine List.ext_getElem (by simp) fun i h₁ h₂ => ?_
  simp [Nat.add_comm]

theorem names_withColumns :
    (t.withColumns rows).columns.map (·.name) = (columnsOfRows rows).map (·.name) := by
  rw [columns_withColumns ht, names_mapIdx]

theorem layout_withColumns (h : rows.length < UInt32.size) : (t.withColumns rows).LaidOut rows := by
  obtain ⟨firsts, hsub, hmap, hmem⟩ := exists_firsts (pairwise_earlier_mergeSort rows) []
  rw [List.mergeSort_zipIdx] at hmap
  have hcolumns : columnsOfRows rows = firsts.map (·.1.column) := by
    rw [columnsOfRows, ← hmap, List.map_map]
    rfl
  have hlength : (t.withColumns rows).columns.length = firsts.length := by
    rw [columns_withColumns ht, hcolumns]
    simp
  refine ⟨nodup_withColumns ht rows, fun name => ?_, ordinals_withColumns ht rows, fun c hc => ?_,
    firsts, (pairwise_earlier_mergeSort rows).sublist hsub, fun a => ?_, ?_⟩
  · rw [names_withColumns ht, columnsOfRows, List.map_map]
    exact mem_names_dropRepeated.trans (by simp)
  · have hordinal := List.mem_map_of_mem (f := (·.ordinal)) hc
    have hle : firsts.length ≤ rows.length := by simpa using hsub.length_le
    rw [ordinals_withColumns ht, List.mem_range'_1, hlength] at hordinal
    omega
  · rw [hmem]
    simp only [List.not_mem_nil, not_false_eq_true, true_and, List.mem_mergeSort]
    exact (isFirst_iff rows a).symm
  · rw [List.forall₂_iff_get]
    refine ⟨hlength, fun i h₁ h₂ => ?_⟩
    simp only [List.get_eq_getElem, columns_withColumns ht, hcolumns, List.getElem_mapIdx,
      List.getElem_map]
    exact (takenFrom_column _).withOrdinal _

omit ht in
/-- The columns of a new table are laid out by their rows, and by rows with ordinals of their own in
whatever order. -/
theorem laidOut_of_rows (name space : String) {rows : List ColumnRow}
    (h : rows.length < UInt32.size) :
    (({ name, space } : Table).withColumns rows).LaidOut rows ∧
      ∀ rows', rows.Perm rows' → (rows.map (·.ordinal)).Nodup →
        ({ name, space } : Table).withColumns rows' =
          ({ name, space } : Table).withColumns rows := by
  refine ⟨layout_withColumns rfl rows h, fun rows' hperm hnodup => ?_⟩
  rw [withColumns, withColumns, columnsOfRows_eq_of_sameRows (.inr ⟨hperm, hnodup⟩)]

end Table

/-- Rows with gaps, a negative ordinal, names and an ordinal that are repeated, and a length that is
too large. -/
def ledger : List ColumnRow :=
  [⟨"note", "text", true, 7, some 5000000000, false⟩, ⟨"id", "integer", false, -2, none, true⟩,
    ⟨"note", "varchar", false, 7, some 20, false⟩, ⟨"id", "bigint", true, 3, none, false⟩,
    ⟨"paid", "boolean", true, 0, none, false⟩]

theorem Table.laidOut_of_rows_ledger :
    ledger.length < UInt32.size ∧
      (({ name := "ledger", space := "public" } : Table).withColumns ledger).LaidOut ledger ∧
      (({ name := "ledger", space := "public" } : Table).withColumns ledger).columns.map
        (fun c => (c.name, c.dataType, c.maxLength)) =
          [("id", "integer", none), ("paid", "boolean", none), ("note", "text", none)] ∧
      ((ledger.drop 2).map (·.ordinal)).Nodup ∧
      ({ name := "ledger", space := "public" } : Table).withColumns (ledger.drop 2).reverse =
        ({ name := "ledger", space := "public" } : Table).withColumns (ledger.drop 2) := by
  have hnodup : ((ledger.drop 2).map (·.ordinal)).Nodup := by decide
  refine ⟨by decide, (laidOut_of_rows _ _ (by decide)).1, ?_, hnodup,
    (laidOut_of_rows _ _ (by decide)).2 _ (List.reverse_perm _).symm hnodup⟩
  rw [columns_withColumns rfl, columnsOfRows]
  simp [ledger, List.mergeSort, List.MergeSort.Internal.splitInTwo, dropRepeated,
    ColumnRow.column]
  decide

end SqlWorkload
