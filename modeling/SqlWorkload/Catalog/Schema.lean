import SqlWorkload.Catalog.Table
import SqlWorkload.Calendar.Moment
/-!
# Schemas

The tables of one source by name, and the foreign keys that can be followed within them.

    e ∈ s.foreignKeyEdges ↔ some table of s has a column whose reference resolves in s, and
                            e has the names of the two                     (mem_foreignKeyEdges)
    s.WellKeyed → (s.insertTable t).WellKeyed                              (wellKeyed_insertTable)
-/

namespace SqlWorkload

/-! ## Algorithm -/

/-- A foreign key from one column to another, both of one schema. -/
structure ForeignKeyEdge where
  fromTable : String
  fromColumn : String
  toTable : String
  toColumn : String
deriving DecidableEq, Repr

structure Schema where
  source : String
  tables : NameMap Table := OrderedMap.empty
  analyzedAt : Option Calendar.Moment := none
  isAnalyzed : Bool := false
deriving DecidableEq

namespace ForeignKeyEdge

/-- Edges are ordered by their four names, in the order of the fields. -/
def order : ForeignKeyEdge → ForeignKeyEdge → Ordering :=
  compareLex (compareOn fromTable) (compareLex (compareOn fromColumn)
    (compareLex (compareOn toTable) (compareOn toColumn)))

instance : Ord ForeignKeyEdge := ⟨order⟩

instance : Std.TransOrd ForeignKeyEdge :=
  inferInstanceAs (Std.TransCmp (compareLex (compareOn fromTable) (compareLex
    (compareOn fromColumn) (compareLex (compareOn toTable) (compareOn toColumn)))))

instance : Std.LawfulEqOrd ForeignKeyEdge where
  eq_of_compare {d e} h := by
    cases d; cases e
    simp only [compare, order, compareLex, compareOn, Ordering.then_eq_eq] at h
    simp only [mk.injEq]
    exact ⟨Std.LawfulEqOrd.eq_of_compare h.1, Std.LawfulEqOrd.eq_of_compare h.2.1,
      Std.LawfulEqOrd.eq_of_compare h.2.2.1, Std.LawfulEqOrd.eq_of_compare h.2.2.2⟩

def touches (e : ForeignKeyEdge) (table : String) : Bool :=
  e.fromTable == table || e.toTable == table

/-- The end opposite to `table`. -/
def otherEnd (e : ForeignKeyEdge) (table : String) : String :=
  if e.fromTable == table then e.toTable else e.fromTable

def fromRef (e : ForeignKeyEdge) : ColumnRef := ⟨e.fromTable, e.fromColumn⟩

def toRef (e : ForeignKeyEdge) : ColumnRef := ⟨e.toTable, e.toColumn⟩

end ForeignKeyEdge

namespace Schema

/-- Stores a table under its name, in place of an earlier one. -/
def insertTable (s : Schema) (t : Table) : Schema :=
  { s with tables := s.tables.insert t.name t }

/-- The schema of these tables; of two with one name the later counts. -/
def analyzed (source : String) (tables : List Table) (time : Calendar.Moment) : Schema :=
  { tables.foldl insertTable { source := source } with
    analyzedAt := some time, isAnalyzed := true }

def table? (s : Schema) (name : String) : Option Table := s.tables.get? name

def isEmpty (s : Schema) : Bool := s.tables.isEmpty

def size (s : Schema) : Nat := s.tables.size

/-- The edge of a column whose reference names a column of the schema. -/
def edge? (s : Schema) (t : Table) (c : Column) : Option ForeignKeyEdge := do
  let target ← c.references
  let _ ← (← s.table? target.table).column? target.column
  some ⟨t.name, c.name, target.table, target.column⟩

/-- The foreign keys whose target exists in the schema, tables by key and columns in order. -/
def foreignKeyEdges (s : Schema) : List ForeignKeyEdge :=
  s.tables.values.flatMap fun t => t.columns.filterMap (s.edge? t)

/-- Each table is stored under its own name. -/
def WellKeyed (s : Schema) : Prop := ∀ e ∈ s.tables.entries, e.1 = e.2.name

instance (s : Schema) : Decidable s.WellKeyed := inferInstanceAs (Decidable (∀ _ ∈ _, _))

end Schema

/-! ## Lemmas -/

namespace Schema

theorem edge?_eq_some_iff {s : Schema} {t : Table} {c : Column} {e : ForeignKeyEdge} :
    s.edge? t c = some e ↔
      ∃ target, c.references = some target ∧
        (∃ u, s.table? target.table = some u ∧ ∃ d, u.column? target.column = some d) ∧
        e = ⟨t.name, c.name, target.table, target.column⟩ := by
  simp only [edge?, Option.bind_eq_bind, Option.bind_eq_some_iff]
  constructor
  · rintro ⟨target, hc, u, hu, d, hd, he⟩
    exact ⟨target, hc, ⟨u, hu, d, hd⟩, (Option.some.inj he).symm⟩
  · rintro ⟨target, hc, ⟨u, hu, d, hd⟩, rfl⟩
    exact ⟨target, hc, u, hu, d, hd, rfl⟩

theorem mem_foreignKeyEdges {s : Schema} {e : ForeignKeyEdge} :
    e ∈ s.foreignKeyEdges ↔
      ∃ t ∈ s.tables.values, ∃ c ∈ t.columns, s.edge? t c = some e := by
  simp [foreignKeyEdges, List.mem_flatMap, List.mem_filterMap]

theorem wellKeyed_insertTable {s : Schema} (h : s.WellKeyed) (t : Table) :
    (s.insertTable t).WellKeyed := by
  intro e he
  rcases mem_insertEntry he with rfl | he
  · rfl
  · exact h e he

@[simp] theorem source_analyzed (source : String) (tables : List Table) (time : Calendar.Moment) :
    (analyzed source tables time).source = source := by
  have (s : Schema) : (tables.foldl insertTable s).source = s.source := by
    induction tables generalizing s with
    | nil => rfl
    | cons t rest ih => exact ih (s.insertTable t)
  exact this { source := source }

theorem wellKeyed_analyzed (source : String) (tables : List Table) (time : Calendar.Moment) :
    (analyzed source tables time).WellKeyed := by
  have (s : Schema) (h : s.WellKeyed) : (tables.foldl insertTable s).WellKeyed := by
    induction tables generalizing s with
    | nil => exact h
    | cons t rest ih => exact ih _ (wellKeyed_insertTable h t)
  exact this { source := source } (by simp [WellKeyed])

end Schema

end SqlWorkload
