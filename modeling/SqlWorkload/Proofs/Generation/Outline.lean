import SqlWorkload.Proofs.Generation.Resemblance
/-!
# Schemas of one outline

The order in which the columns of a table list their indexes is no part of the outline of a schema:
the indexes of a table as a whole are sorted. Schemas of one outline resemble each other.

    which indexes the columns have, not where, makes those of the table
                                                                  (Table.indexes_eq_of_mem_iff)
    schemas of one outline resemble each other                    (Schema.resembles_of_outline)
-/

namespace SqlWorkload

/-! ## Outlines -/

def Column.outline (c : Column) : Column := { c with indexes := [] }

/-- The columns but for what they list as their indexes, and the indexes of the whole table. -/
def Table.outline (t : Table) : Table × List ColumnIndex :=
  ({ t with columns := t.columns.map (·.outline) }, t.indexes)

def Schema.outline (s : Schema) : NameMap (Table × List ColumnIndex) :=
  s.tables.mapValues (·.outline)

def Column.Alike (c d : Column) : Prop := c.outline = d.outline

def Table.Alike (t u : Table) : Prop := t.outline = u.outline

theorem Column.Alike.resembles {c d : Column} (h : c.Alike d) : c.Resembles d where
  name_eq := congrArg (·.name) h
  family_eq := congrArg (·.family) h
  maxLength_eq := congrArg (·.maxLength) h
  references_eq := congrArg (·.references) h

theorem Table.Alike.resembles {t u : Table} (h : t.Alike u) : t.Resembles u where
  name_eq := congrArg (·.1.name) h
  space_eq := congrArg (·.1.space) h
  columns := by
    have hcolumns : List.Forall₂ Column.Alike t.columns u.columns :=
      forall₂_of_map_eq (congrArg (·.1.columns) h)
    exact hcolumns.imp fun _ _ => Column.Alike.resembles
  indexes_eq := congrArg (·.2) h

theorem Schema.resembles_of_outline {s r : Schema} (h : s.outline = r.outline) :
    s.Resembles r where
  keys_eq := by
    have hkeys := congrArg OrderedMap.keys h
    rwa [outline, outline, OrderedMap.keys_mapValues, OrderedMap.keys_mapValues] at hkeys
  tables := by
    rintro ⟨name, t⟩ ht ⟨_, u⟩ hu rfl
    have hname := congrArg (·.get? name) h
    simp only [outline, OrderedMap.get?_mapValues, OrderedMap.mem_entries_iff.1 ht,
      OrderedMap.mem_entries_iff.1 hu] at hname
    exact Table.Alike.resembles (Option.some.inj hname)

/-! ## Indexes of a table -/

namespace Table

/-- The names of the index map are those of the entries, each unique if some entry is. -/
theorem get?_foldl_indexMap (l : List ColumnIndex) (m : NameMap Bool) (name : String) :
    (l.foldl (fun m i => m.insert i.name ((m.get? i.name).getD false || i.isUnique)) m).get? name =
      if ∃ i ∈ l, i.name = name then
        some ((m.get? name).getD false || l.any fun i => i.name == name && i.isUnique)
      else m.get? name := by
  induction l generalizing m with
  | nil => simp
  | cons i rest ih =>
    rw [List.foldl_cons, ih]
    by_cases hi : i.name = name
    · subst hi
      by_cases hrest : ∃ j ∈ rest, j.name = i.name
      · simp [hrest, Bool.or_assoc]
      · have hnone : rest.any (fun j => j.name == i.name && j.isUnique) = false := by
          rw [List.any_eq_false]
          intro j hj hboth
          rw [Bool.and_eq_true, beq_iff_eq] at hboth
          exact hrest ⟨j, hj, hboth.1⟩
        simp [hrest, hnone]
    · have hne : (i.name == name) = false := by simpa using hi
      simp [hi, hne]

/-- The indexes of a table depend on which entries its columns have, not on where they stand. -/
theorem indexes_eq_of_mem_iff {t u : Table}
    (h : ∀ i, i ∈ t.columns.flatMap (·.indexes) ↔ i ∈ u.columns.flatMap (·.indexes)) :
    t.indexes = u.indexes := by
  have hmap : t.indexMap = u.indexMap := by
    refine OrderedMap.ext_get? fun name => ?_
    have hany : ((t.columns.flatMap (·.indexes)).any fun i => i.name == name && i.isUnique) =
        (u.columns.flatMap (·.indexes)).any fun i => i.name == name && i.isUnique := by
      rw [Bool.eq_iff_iff]
      simp only [List.any_eq_true, h]
    rw [indexMap, indexMap, get?_foldl_indexMap, get?_foldl_indexMap, hany]
    refine if_congr ?_ rfl rfl
    simp only [h]
  rw [indexes, indexes, hmap]

end Table

theorem mem_flatMap_iff_of_forall₂ {α β : Type} {R : α → α → Prop} {f : α → List β} {b : β}
    {l l' : List α} (h : List.Forall₂ R l l') (hf : ∀ a a', R a a' → (b ∈ f a ↔ b ∈ f a')) :
    b ∈ l.flatMap f ↔ b ∈ l'.flatMap f := by
  induction h with
  | nil => exact .rfl
  | cons hR _ ih => rw [List.flatMap_cons, List.flatMap_cons, List.mem_append, List.mem_append,
      hf _ _ hR, ih]

end SqlWorkload
