import SqlWorkload.Catalog.TypeFamily
import SqlWorkload.OrderedMap
/-!
# Columns and tables

What a catalog tells of a table: its columns in order, with their types, keys, indexes and
references. A reference names its target; it is followed only within a schema.

    (t.pushColumn c).columns = t.columns ++ [c at the next ordinal]        (columns_pushColumn)
    c.addIndex keeps the index names of a column distinct                  (nodup_addIndex)
    t.indexes is sorted by name                                            (sorted_indexes)
-/

namespace SqlWorkload

/-! ## Algorithm -/

/-- A column by the names of its table and itself. -/
structure ColumnRef where
  table : String
  column : String
deriving DecidableEq, Repr

structure ColumnIndex where
  name : String
  isUnique : Bool
deriving DecidableEq, Repr

structure Column where
  name : String
  dataType : String
  isNullable : Bool := true
  maxLength : Option Int := none
  /-- The place in the table, counted from 1. -/
  ordinal : Nat := 0
  isAutoIncrement : Bool := false
  isPrimaryKey : Bool := false
  hasIndex : Bool := false
  isUniqueIndex : Bool := false
  /-- The indexes over the column that do not serve the primary key. -/
  indexes : List ColumnIndex := []
  references : Option ColumnRef := none
deriving DecidableEq, Repr

structure Table where
  name : String
  /-- The namespace that the table lives in. -/
  space : String
  columns : List Column := []
  rowEstimate : Option Int := none
deriving DecidableEq, Repr

/-- The list with `f` applied to the first element that satisfies `p`. -/
def updateFirst {α : Type} (p : α → Bool) (f : α → α) : List α → List α
  | [] => []
  | a :: rest => if p a then f a :: rest else a :: updateFirst p f rest

/-- Whether both names are there. -/
def ColumnRef.isNamed (r : ColumnRef) : Bool := !r.table.isEmpty && !r.column.isEmpty

namespace Column

def isForeignKey (c : Column) : Bool := c.references.isSome

def family (c : Column) : TypeFamily := TypeFamily.ofTypeName c.dataType

/-- Marks the column as a foreign key; a target with an empty name is ignored. -/
def setReference (c : Column) (target : ColumnRef) : Column :=
  if target.isNamed then { c with references := some target } else c

/-- Adds an index over the column. A name that it has already keeps its first entry, and the
column counts as uniquely indexed once a unique index was added. -/
def addIndex (c : Column) (i : ColumnIndex) : Column :=
  { c with
    hasIndex := true
    isUniqueIndex := c.isUniqueIndex || i.isUnique
    indexes := if c.indexes.any (·.name == i.name) then c.indexes else c.indexes ++ [i] }

end Column

namespace Table

/-- Appends a column at the next ordinal. -/
def pushColumn (t : Table) (c : Column) : Table :=
  { t with columns := t.columns ++ [{ c with ordinal := t.columns.length + 1 }] }

/-- The first column of that name. -/
def column? (t : Table) (name : String) : Option Column :=
  t.columns.find? (·.name == name)

/-- The table with `f` applied to the first column of that name. -/
def updateColumn (t : Table) (name : String) (f : Column → Column) : Table :=
  { t with columns := updateFirst (·.name == name) f t.columns }

/-- The table without the columns of that name; the others keep their ordinals. -/
def dropColumn (t : Table) (name : String) : Table :=
  { t with columns := t.columns.filter (·.name != name) }

def primaryKey (t : Table) : List Column := t.columns.filter (·.isPrimaryKey)

/-- The index names of all columns, each with whether some entry makes it unique. -/
def indexMap (t : Table) : NameMap Bool :=
  (t.columns.flatMap (·.indexes)).foldl
    (fun m i => m.insert i.name ((m.get? i.name).getD false || i.isUnique)) OrderedMap.empty

/-- The distinct indexes of the table, sorted by name. -/
def indexes (t : Table) : List ColumnIndex :=
  t.indexMap.entries.map fun (name, unique) => ⟨name, unique⟩

end Table

/-! ## Lemmas -/

@[simp] theorem Column.name_setReference (c : Column) (target : ColumnRef) :
    (c.setReference target).name = c.name := by
  unfold Column.setReference
  split <;> rfl

@[simp] theorem Column.name_addIndex (c : Column) (i : ColumnIndex) :
    (c.addIndex i).name = c.name := rfl

theorem Column.nodup_addIndex {c : Column} {i : ColumnIndex}
    (h : (c.indexes.map (·.name)).Nodup) : ((c.addIndex i).indexes.map (·.name)).Nodup := by
  unfold Column.addIndex
  dsimp only
  split
  · exact h
  · next hi =>
    simp only [List.any_eq_true, beq_iff_eq, not_exists, not_and] at hi
    simp only [List.map_append, List.map_cons, List.map_nil, List.nodup_append]
    refine ⟨h, by simp, fun a ha b hb => ?_⟩
    obtain ⟨j, hj, rfl⟩ := List.mem_map.1 ha
    simp only [List.mem_singleton] at hb
    exact hb ▸ hi j hj

@[simp] theorem Table.columns_pushColumn (t : Table) (c : Column) :
    (t.pushColumn c).columns = t.columns ++ [{ c with ordinal := t.columns.length + 1 }] := rfl

theorem Table.sorted_indexes (t : Table) :
    t.indexes.Pairwise fun i j => compare i.name j.name = .lt := by
  simpa [Table.indexes, List.pairwise_map] using t.indexMap.sorted

end SqlWorkload
