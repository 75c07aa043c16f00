import SqlWorkload.Proofs.Analysis.Description
import SqlWorkload.Proofs.Generation.Outline
/-!
# Calls that add an index

What a column and its table tell of the indexes that were added. Each of them goes by a rule of its
own: the flags of a column count every call, its list keeps the first call of each name, and the
table joins what its columns have kept. A name that is added as unique only after it was added
otherwise sets the flag, but neither the entry of the column nor that of the table.

    a column keeps the first call of each name                     (Column.records_addIndexes)
    its flags summarize its list just if a first call is unique, or no call is
                                                                   (Column.Records.summarized_iff)
    a table lists each name, unique if a first call of a column is (Table.lists_startsUnique)
-/

namespace SqlWorkload

/-! ## Definitions -/

/-- The first call of that name adds a unique index. -/
def StartsUnique (calls : List ColumnIndex) (name : String) : Prop :=
  calls.find? (·.name == name) = some ⟨name, true⟩

instance (calls : List ColumnIndex) (name : String) : Decidable (StartsUnique calls name) :=
  inferInstanceAs (Decidable (_ = _))

namespace Column

/-- The column after calls that add an index each. -/
def addIndexes (c : Column) (calls : List ColumnIndex) : Column := calls.foldl addIndex c

/-- No index was added to the column. -/
structure Unindexed (c : Column) : Prop where
  hasIndex_eq : c.hasIndex = false
  isUniqueIndex_eq : c.isUniqueIndex = false
  indexes_eq : c.indexes = []

/-- The column has the indexes of these calls and no others. -/
def IndexedBy (c : Column) (calls : List ColumnIndex) : Prop :=
  ∃ new : Column, new.Unindexed ∧ c = new.addIndexes calls

/-- The flags of the column are what its list of indexes says, and the list has each name once. -/
structure Summarized (c : Column) : Prop where
  hasIndex_iff : c.hasIndex = true ↔ c.indexes ≠ []
  nodup : (c.indexes.map (·.name)).Nodup
  isUniqueIndex_iff : c.isUniqueIndex = true ↔ ∃ i ∈ c.indexes, i.isUnique = true

/-- The column lists the first call of each name, in the order in which names come up, and its flags
count all calls. -/
structure Records (c : Column) (calls : List ColumnIndex) : Prop where
  nodup : (c.indexes.map (·.name)).Nodup
  names_eq : c.indexes.map (·.name) = (calls.map (·.name)).eraseDups
  mem_indexes_iff : ∀ i, i ∈ c.indexes ↔ calls.find? (·.name == i.name) = some i
  hasIndex_iff : c.hasIndex = true ↔ calls ≠ []
  isUniqueIndex_iff : c.isUniqueIndex = true ↔ ∃ i ∈ calls, i.isUnique = true

end Column

/-- The columns of the table have the indexes of these calls, one list of calls for each. -/
def Table.IndexedBy (t : Table) (history : List (List ColumnIndex)) : Prop :=
  List.Forall₂ Column.IndexedBy t.columns history

/-- The table lists, sorted by name, each name of the calls for its columns, and as unique those that
`unique` tells. -/
structure Table.Lists (t : Table) (history : List (List ColumnIndex)) (unique : String → Prop) :
    Prop where
  sorted : t.indexes.Pairwise fun i j => compare i.name j.name = .lt
  mem_names_iff : ∀ name, name ∈ t.indexes.map (·.name) ↔
    ∃ calls ∈ history, ∃ i ∈ calls, i.name = name
  isUnique_iff : ∀ i ∈ t.indexes, i.isUnique = true ↔ unique i.name

/-! ## Columns -/

namespace Column

variable {c : Column} {calls : List ColumnIndex}

/-- The calls do what rows about the column do. -/
theorem addIndexes_eq_withIndexes (c : Column) (calls : List ColumnIndex) :
    c.addIndexes calls = c.withIndexes (calls.map fun i => ⟨i.name, c.name, i.isUnique⟩) := by
  rw [addIndexes, withIndexes, List.foldl_map]
  rfl

theorem ordinal_addIndexes (c : Column) (calls : List ColumnIndex) (n : Nat) :
    { c.addIndexes calls with ordinal := n } =
      Column.addIndexes { c with ordinal := n } calls := by
  induction calls generalizing c with
  | nil => rfl
  | cons i rest ih => exact ih (c.addIndex i)

theorem nodup_addIndexes (h : (c.indexes.map (·.name)).Nodup) (calls : List ColumnIndex) :
    ((c.addIndexes calls).indexes.map (·.name)).Nodup := by
  induction calls generalizing c with
  | nil => exact h
  | cons i rest ih => exact ih (nodup_addIndex h)

theorem names_addIndexes (hc : c.indexes = []) (calls : List ColumnIndex) :
    (c.addIndexes calls).indexes.map (·.name) = (calls.map (·.name)).eraseDups := by
  rw [addIndexes_eq_withIndexes, names_withIndexes hc, List.map_map]
  rfl

theorem find?_of_mem_addIndexes (hc : c.indexes = []) {i : ColumnIndex}
    (hi : i ∈ (c.addIndexes calls).indexes) : calls.find? (·.name == i.name) = some i := by
  rw [addIndexes_eq_withIndexes] at hi
  have hunique := isUnique_withIndexes hc _ i hi
  rw [List.find?_map, Option.map_map] at hunique
  obtain ⟨j, hj, hji⟩ := Option.map_eq_some_iff.1 hunique
  have hname : j.name = i.name := by simpa using List.find?_some hj
  have hij : j = i := by
    cases i
    cases j
    simp_all
  exact hij ▸ hj

/-- The first call of a name has an entry, which cannot be that of another call. -/
theorem mem_addIndexes_iff (hc : c.indexes = []) (i : ColumnIndex) :
    i ∈ (c.addIndexes calls).indexes ↔ calls.find? (·.name == i.name) = some i := by
  refine ⟨find?_of_mem_addIndexes hc, fun hi => ?_⟩
  have hmem : i.name ∈ (c.addIndexes calls).indexes.map (·.name) := by
    rw [names_addIndexes hc, List.mem_eraseDups]
    exact List.mem_map_of_mem (List.mem_of_find?_eq_some hi)
  obtain ⟨j, hj, hname⟩ := List.mem_map.1 hmem
  have hji := find?_of_mem_addIndexes hc hj
  rw [hname, hi] at hji
  exact Option.some.inj hji ▸ hj

theorem records_addIndexes (hc : c.Unindexed) (calls : List ColumnIndex) :
    (c.addIndexes calls).Records calls := by
  refine ⟨nodup_addIndexes (by simp [hc.indexes_eq]) calls, names_addIndexes hc.indexes_eq calls,
    mem_addIndexes_iff hc.indexes_eq, ?_, ?_⟩
  · rw [addIndexes_eq_withIndexes, withIndexes_eq]
    simp [hc.hasIndex_eq]
  · rw [addIndexes_eq_withIndexes, withIndexes_eq]
    simp [hc.isUniqueIndex_eq]

theorem unindexed_new (name dataType : String) : ({ name, dataType } : Column).Unindexed :=
  ⟨rfl, rfl, rfl⟩

theorem Unindexed.indexedBy (h : c.Unindexed) (calls : List ColumnIndex) :
    (c.addIndexes calls).IndexedBy calls :=
  ⟨c, h, rfl⟩

/-- The place in a table says nothing of the indexes. -/
theorem IndexedBy.withOrdinal (h : c.IndexedBy calls) (n : Nat) :
    Column.IndexedBy { c with ordinal := n } calls := by
  obtain ⟨new, hnew, rfl⟩ := h
  exact ⟨{ new with ordinal := n }, ⟨hnew.hasIndex_eq, hnew.isUniqueIndex_eq, hnew.indexes_eq⟩,
    ordinal_addIndexes new calls n⟩

theorem IndexedBy.records (h : c.IndexedBy calls) : c.Records calls := by
  obtain ⟨new, hnew, rfl⟩ := h
  exact records_addIndexes hnew calls

theorem Records.mem_names_iff (h : c.Records calls) (name : String) :
    (∃ i ∈ c.indexes, i.name = name) ↔ ∃ i ∈ calls, i.name = name := by
  rw [← List.mem_map, ← List.mem_map, h.names_eq, List.mem_eraseDups]

theorem Records.indexes_eq_nil_iff (h : c.Records calls) : c.indexes = [] ↔ calls = [] := by
  have hnil (l : List ColumnIndex) : l = [] ↔ ∀ name, ¬∃ i ∈ l, i.name = name := by
    simp [List.eq_nil_iff_forall_not_mem]
  simp only [hnil, h.mem_names_iff]

theorem Records.exists_isUnique_iff (h : c.Records calls) :
    (∃ i ∈ c.indexes, i.isUnique = true) ↔ ∃ name, StartsUnique calls name := by
  constructor
  · rintro ⟨⟨name, unique⟩, hi, rfl⟩
    exact ⟨name, (h.mem_indexes_iff _).1 hi⟩
  · rintro ⟨name, hname⟩
    exact ⟨⟨name, true⟩, (h.mem_indexes_iff _).2 hname, rfl⟩

end Column

theorem StartsUnique.mem {calls : List ColumnIndex} {name : String} (h : StartsUnique calls name) :
    ⟨name, true⟩ ∈ calls :=
  List.mem_of_find?_eq_some h

/-- The flag for a unique index is the only one that can be wrong. -/
theorem Column.Records.summarized_iff {c : Column} {calls : List ColumnIndex}
    (h : c.Records calls) :
    c.Summarized ↔
      ((∃ i ∈ calls, i.isUnique = true) → ∃ name, StartsUnique calls name) := by
  constructor
  · intro hs hunique
    rw [← h.exists_isUnique_iff, ← hs.isUniqueIndex_iff, h.isUniqueIndex_iff]
    exact hunique
  · intro hstarts
    refine ⟨?_, h.nodup, ?_⟩
    · rw [h.hasIndex_iff, ne_eq, ne_eq, h.indexes_eq_nil_iff]
    · rw [h.isUniqueIndex_iff, h.exists_isUnique_iff]
      exact ⟨hstarts, fun ⟨name, hname⟩ => ⟨_, hname.mem, rfl⟩⟩

/-! ## Tables -/

theorem exists_mem_iff_of_forall₂ {α β : Type} {R : α → β → Prop} {p : α → Prop} {q : β → Prop}
    {l : List α} {m : List β} (h : List.Forall₂ R l m) (hpq : ∀ a b, R a b → (p a ↔ q b)) :
    (∃ a ∈ l, p a) ↔ ∃ b ∈ m, q b := by
  induction h with
  | nil => simp
  | cons hab _ ih => rw [List.exists_mem_cons_iff, List.exists_mem_cons_iff, hpq _ _ hab, ih]

namespace Table

variable {t : Table} {history : List (List ColumnIndex)}

theorem indexedBy_new (name space : String) : ({ name, space } : Table).IndexedBy [] := .nil

theorem IndexedBy.pushColumn (h : t.IndexedBy history) {c : Column} {calls : List ColumnIndex}
    (hc : c.IndexedBy calls) : (t.pushColumn c).IndexedBy (history ++ [calls]) := by
  rw [IndexedBy, columns_pushColumn]
  exact List.rel_append h (.cons (hc.withOrdinal _) .nil)

theorem any_isUnique_iff {l : List ColumnIndex} {name : String} :
    (l.any fun k => k.name == name && k.isUnique) = true ↔ ⟨name, true⟩ ∈ l := by
  rw [List.any_eq_true]
  constructor
  · rintro ⟨k, hk, hboth⟩
    simp only [Bool.and_eq_true, beq_iff_eq] at hboth
    rwa [← hboth.1, ← hboth.2]
  · exact fun hk => ⟨_, hk, by simp⟩

/-- The list of a table joins the entries of its columns. -/
theorem mem_indexes_iff {i : ColumnIndex} :
    i ∈ t.indexes ↔ (∃ k ∈ t.columns.flatMap (·.indexes), k.name = i.name) ∧
      (i.isUnique = true ↔ ⟨i.name, true⟩ ∈ t.columns.flatMap (·.indexes)) := by
  have hentry : i ∈ t.indexes ↔ t.indexMap.get? i.name = some i.isUnique := by
    rw [← OrderedMap.mem_entries_iff, indexes, List.mem_map]
    constructor
    · rintro ⟨e, he, rfl⟩
      exact he
    · exact fun he => ⟨_, he, rfl⟩
  rw [hentry, indexMap, get?_foldl_indexMap, OrderedMap.get?_empty, Option.getD_none,
    Bool.false_or, ← any_isUnique_iff]
  split
  · next hnamed =>
    rw [Option.some.injEq, Bool.eq_iff_iff]
    exact ⟨fun hi => ⟨hnamed, hi.symm⟩, fun hi => hi.2.symm⟩
  · next hnone =>
    constructor
    · intro hi
      contradiction
    · exact fun hi => absurd hi.1 hnone

theorem mem_names_indexes_iff {name : String} :
    name ∈ t.indexes.map (·.name) ↔ ∃ k ∈ t.columns.flatMap (·.indexes), k.name = name := by
  rw [List.mem_map]
  constructor
  · rintro ⟨i, hi, rfl⟩
    exact (mem_indexes_iff.1 hi).1
  · intro hnamed
    exact ⟨⟨name, decide (⟨name, true⟩ ∈ t.columns.flatMap (·.indexes))⟩,
      mem_indexes_iff.2 ⟨hnamed, by simp⟩, rfl⟩

variable (h : List.Forall₂ Column.Records t.columns history)

include h

/-- The table sees the first calls only. -/
theorem mem_entries_iff (i : ColumnIndex) : i ∈ t.columns.flatMap (·.indexes) ↔
    ∃ calls ∈ history, calls.find? (·.name == i.name) = some i := by
  rw [List.mem_flatMap]
  exact exists_mem_iff_of_forall₂ h fun c calls hc => hc.mem_indexes_iff i

theorem lists_startsUnique :
    t.Lists history fun name => ∃ calls ∈ history, StartsUnique calls name := by
  refine ⟨t.sorted_indexes, fun name => ?_, fun i hi => ?_⟩
  · have hcolumns := exists_mem_iff_of_forall₂ h fun _ _ hc => hc.mem_names_iff name
    rw [mem_names_indexes_iff, ← hcolumns]
    simp only [List.mem_flatMap]
    exact ⟨fun ⟨k, ⟨c, hc, hk⟩, hname⟩ => ⟨c, hc, k, hk, hname⟩,
      fun ⟨c, hc, k, hk, hname⟩ => ⟨k, ⟨c, hc, hk⟩, hname⟩⟩
  · rw [(mem_indexes_iff.1 hi).2, mem_entries_iff h]
    rfl

/-- The table lists every unique index just if each is unique on a column from its first call on. -/
theorem lists_iff :
    (t.Lists history fun name => ∃ calls ∈ history, ⟨name, true⟩ ∈ calls) ↔
      ∀ name, (∃ calls ∈ history, ⟨name, true⟩ ∈ calls) →
        ∃ calls ∈ history, StartsUnique calls name := by
  obtain ⟨hsorted, hnames, hunique⟩ := lists_startsUnique h
  constructor
  · rintro hlists name ⟨calls, hcalls, hname⟩
    obtain ⟨i, hi, rfl⟩ := List.mem_map.1 ((hnames name).2 ⟨calls, hcalls, _, hname, rfl⟩)
    exact (hunique i hi).1 ((hlists.isUnique_iff i hi).2 ⟨calls, hcalls, hname⟩)
  · intro hstarts
    refine ⟨hsorted, hnames, fun i hi => (hunique i hi).trans ⟨?_, hstarts i.name⟩⟩
    rintro ⟨calls, hcalls, hname⟩
    exact ⟨calls, hcalls, hname.mem⟩

end Table

/-! ## What the calls leave -/

/-- A column records the calls for it, and a table with such columns joins what they have recorded.
Flags and lists agree where no name is added as unique too late. -/
theorem Table.lists_of_indexedBy {c : Column} {calls : List ColumnIndex} (hc : c.IndexedBy calls)
    {t : Table} {history : List (List ColumnIndex)} (ht : t.IndexedBy history) :
    c.Records calls ∧
      (c.Summarized ↔ ((∃ i ∈ calls, i.isUnique = true) → ∃ name, StartsUnique calls name)) ∧
      (t.Lists history fun name => ∃ calls ∈ history, StartsUnique calls name) ∧
      ((t.Lists history fun name => ∃ calls ∈ history, ⟨name, true⟩ ∈ calls) ↔
        ∀ name, (∃ calls ∈ history, ⟨name, true⟩ ∈ calls) →
          ∃ calls ∈ history, StartsUnique calls name) := by
  have hrecords := ht.imp fun _ _ hd => hd.records
  exact ⟨hc.records, hc.records.summarized_iff, lists_startsUnique hrecords, lists_iff hrecords⟩

/-- An index that is added as unique only the second time. -/
def lateCalls : List ColumnIndex := [⟨"items_code", false⟩, ⟨"items_code", true⟩]

theorem not_startsUnique_lateCalls (name : String) : ¬StartsUnique lateCalls name := by
  intro h
  obtain rfl : name = "items_code" := by simpa [lateCalls] using h.mem
  exact absurd h (by decide)

def Column.late : Column := ({ name := "sku", dataType := "text" } : Column).addIndexes lateCalls

theorem Column.indexedBy_late : late.IndexedBy lateCalls :=
  (unindexed_new "sku" "text").indexedBy lateCalls

/-- Two columns of one index, which the first does not list as unique. -/
def Table.items : Table :=
  (({ name := "items", space := "public" } : Table).pushColumn .late).pushColumn
    (({ name := "code", dataType := "text" } : Column).addIndexes (lateCalls.drop 1))

/-- In the list of the table the second column makes up for the first. -/
theorem Table.lists_of_indexedBy_items :
    Column.late.IndexedBy lateCalls ∧ ¬Column.late.Summarized ∧
      items.IndexedBy [lateCalls, lateCalls.drop 1] ∧
      items.Lists [lateCalls, lateCalls.drop 1] fun name =>
        ∃ calls ∈ [lateCalls, lateCalls.drop 1], ⟨name, true⟩ ∈ calls := by
  have hc := Column.indexedBy_late
  have ht : items.IndexedBy [lateCalls, lateCalls.drop 1] :=
    ((indexedBy_new "items" "public").pushColumn hc).pushColumn
      ((Column.unindexed_new "code" "text").indexedBy _)
  obtain ⟨-, hsummarized, -, hlists⟩ := lists_of_indexedBy hc ht
  refine ⟨hc, fun hs => ?_, ht, hlists.2 fun name hname => ?_⟩
  · obtain ⟨name, hname⟩ := hsummarized.1 hs (by decide)
    exact not_startsUnique_lateCalls name hname
  · obtain rfl : name = "items_code" := by simpa [lateCalls] using hname
    exact ⟨lateCalls.drop 1, by simp, by decide⟩

/-- Neither the flag nor the list of the table need agree with the calls: a column that takes an
index for unique too late shows it, and a table with no other column. -/
theorem Table.not_lists_of_indexedBy :
    (¬∀ (c : Column) (calls : List ColumnIndex), c.IndexedBy calls → c.Summarized) ∧
      ¬∀ (t : Table) (history : List (List ColumnIndex)), t.IndexedBy history →
        t.Lists history fun name => ∃ calls ∈ history, ⟨name, true⟩ ∈ calls := by
  have hc := Column.indexedBy_late
  have ht := (indexedBy_new "items" "public").pushColumn hc
  refine ⟨fun hall => ?_, fun hall => ?_⟩
  · obtain ⟨name, hname⟩ := hc.records.summarized_iff.1 (hall _ _ hc) (by decide)
    exact not_startsUnique_lateCalls name hname
  · have hrecords := ht.imp fun _ _ hd => hd.records
    obtain ⟨calls, hcalls, hname⟩ := (lists_iff hrecords).1 (hall _ _ ht) "items_code"
      (by decide)
    obtain rfl : calls = lateCalls := by simpa using hcalls
    exact not_startsUnique_lateCalls _ hname

end SqlWorkload
