import SqlWorkload.Proofs.Generation.JoinTree
import Mathlib.Data.List.Nodup
/-!
# The columns of a query

The columns that the clauses of a query may be about: those of its tables, in the order of the
tables and then of the columns. In a schema with distinct column names each reference among them
stands for one column, and no two of them are the same.

    the columns drawn from are those of the tables of the query  (Drawn.columnsIn_eq)
    each of them resolves to the column that was drawn           (Drawn.resolves)
    they are distinct                                            (Drawn.nodup_columnsIn)
-/

namespace SqlWorkload

namespace Schema

/-- No table has two columns of one name. -/
def DistinctColumns (s : Schema) : Prop :=
  ∀ t ∈ s.tables.values, (t.columns.map (·.name)).Nodup

instance (s : Schema) : Decidable s.DistinctColumns := inferInstanceAs (Decidable (∀ _ ∈ _, _))

/-- References to the columns of a table in order; an unknown table has none. -/
def columnsOf (s : Schema) (table : String) : List ColumnRef :=
  ((s.table? table).map fun t => t.columns.map fun c => ⟨table, c.name⟩).getD []

/-- The reference stands for the column, and for no other one of its table. -/
def Resolves (s : Schema) (r : ColumnRef) (c : Column) : Prop :=
  ∃ t, s.table? r.table = some t ∧ t.columns.filter (·.name == r.column) = [c]

theorem mem_columnsOf {s : Schema} {table : String} {r : ColumnRef} :
    r ∈ s.columnsOf table ↔
      ∃ t, s.table? table = some t ∧ ∃ c ∈ t.columns, ⟨table, c.name⟩ = r := by
  unfold columnsOf
  cases s.table? table <;> simp

theorem nodup_columnsOf {s : Schema} (hd : s.DistinctColumns) (table : String) :
    (s.columnsOf table).Nodup := by
  unfold columnsOf
  cases ht : s.table? table with
  | none => exact List.nodup_nil
  | some t =>
    refine List.Nodup.of_map (·.column) ?_
    simpa [Function.comp_def] using hd t (mem_values_of_table? ht)

end Schema

def Query.columnsIn (s : Schema) (q : Query) : List ColumnRef := q.tables.flatMap s.columnsOf

namespace Table

/-- With distinct names, a name stands for exactly one column. -/
theorem filter_name_eq {cs : List Column} (hd : (cs.map (·.name)).Nodup) {c : Column}
    (hc : c ∈ cs) : cs.filter (·.name == c.name) = [c] := by
  induction cs with
  | nil => simp at hc
  | cons d rest ih =>
    rw [List.map_cons, List.nodup_cons] at hd
    rcases List.mem_cons.1 hc with rfl | hc
    · have hnone : rest.filter (·.name == c.name) = [] := by
        rw [List.filter_eq_nil_iff]
        intro e he heq
        exact hd.1 (List.mem_map.2 ⟨e, he, by simpa using heq⟩)
      simp [hnone]
    · have hne : d.name ≠ c.name := fun h => hd.1 (h ▸ List.mem_map_of_mem hc)
      simp [hne, ih hd.2 hc]

end Table

namespace Generation

variable {s : Schema} (hs : s.WellKeyed) {params : Parameters} {q : Query} {anchor : Table}
  {tables : List Table} (h : Drawn s params q anchor tables)

include hs h

theorem Drawn.columnsIn_eq : q.columnsIn s = (candidates tables).map (·.ref) := by
  have hcolumns : ∀ t ∈ tables, s.columnsOf t.name = t.columns.map fun c => ⟨t.name, c.name⟩ := by
    intro t ht
    rw [Schema.columnsOf, hs.table?_name (h.mem_values t ht)]
    rfl
  rw [Query.columnsIn, h.tables_eq, List.flatMap_map, candidates, List.map_flatMap]
  refine List.flatMap_congr fun t ht => ?_
  rw [hcolumns t ht, List.map_map]
  rfl

variable (hd : s.DistinctColumns)

include hd

theorem Drawn.resolves {c : Candidate} (hc : c ∈ candidates tables) :
    s.Resolves c.ref c.column := by
  obtain ⟨t, ht, d, hmem, rfl⟩ := mem_candidates.1 hc
  have hvalue := h.mem_values t ht
  exact ⟨t, hs.table?_name hvalue, Table.filter_name_eq (hd t hvalue) hmem⟩

theorem Drawn.nodup_columnsIn : (q.columnsIn s).Nodup := by
  refine List.nodup_flatMap.2 ⟨fun table _ => Schema.nodup_columnsOf hd table, ?_⟩
  refine (h.joinTree hs).nodup.imp fun hne r hr hr' => hne ?_
  obtain ⟨-, -, c, -, rfl⟩ := Schema.mem_columnsOf.1 hr
  obtain ⟨-, -, d, -, heq⟩ := Schema.mem_columnsOf.1 hr'
  exact (congrArg ColumnRef.table heq).symm

end Generation

/-- Tables with several kinds of columns and indexes, and one without any. -/
def Schema.shop : Schema :=
  .analyzed "shop"
    [{ name := "customers", space := "public"
       columns :=
        [{ name := "id", dataType := "integer", indexes := [⟨"by_id", true⟩] },
         { name := "name", dataType := "varchar", maxLength := some 40
           indexes := [⟨"by_name", false⟩] },
         { name := "since", dataType := "date" }] },
     { name := "orders", space := "public"
       columns :=
        [{ name := "id", dataType := "bigint" },
         { name := "customer", dataType := "integer", indexes := [⟨"by_customer", false⟩]
           references := some ⟨"customers", "id"⟩ },
         { name := "total", dataType := "numeric" },
         { name := "place", dataType := "point" }] },
     { name := "marks", space := "public" }]
    (.newYear 2024)

end SqlWorkload
