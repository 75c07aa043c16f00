import SqlWorkload.Query.Dialect
import SqlWorkload.Proofs.Analysis.Calls
import SqlWorkload.Proofs.Analysis.Description
import SqlWorkload.Proofs.Generation.Outline
import Mathlib.Data.List.Nodup
/-!
# The order of answers

A catalog may list what it knows in any order. Tables are asked for by name, and columns stand by
their ordinals. Key columns, foreign keys of different columns and indexes that do not contradict
each other mark the same columns whichever comes first. Two surveys of the same answers in another
order therefore break off at the same failure; and if they do not, their schemas differ at most in
the order in which a column lists its indexes, which no query depends on.

    the first fatal failure of the plan is the same               (Rearranged.findSome?_fatal?_eq)
    tables made of the same answers in another order are alike    (Table.MadeOf.alike)
    a survey shows nothing of the order of the answers            (Rearranged.indistinct)
-/

namespace SqlWorkload

/-! ## Rearranged answers -/

/-- Both answers are the same failure, or both succeed with related contents. -/
inductive Agrees {ε α : Type} (R : α → α → Prop) : Except ε α → Except ε α → Prop
  | error (e : ε) : Agrees R (.error e) (.error e)
  | ok {a b : α} (h : R a b) : Agrees R (.ok a) (.ok b)

/-- The same rows, and in the same order where `P` does not hold of them. -/
def SameRows {ρ : Type} (P : List ρ → Prop) (l m : List ρ) : Prop :=
  l = m ∨ l.Perm m ∧ P l

/-- No index is both unique and not for one column. -/
def Unambiguous (rows : List IndexRow) : Prop :=
  ∀ i ∈ rows, ∀ j ∈ rows, i.name = j.name → i.column = j.column → i.isUnique = j.isUnique

instance : DecidablePred Unambiguous := fun rows =>
  inferInstanceAs (Decidable (∀ i ∈ rows, ∀ j ∈ rows, _))

/-- The same is said about a table, in another order where that has no meaning: of columns with
their own ordinals, of key columns, of foreign keys with no column in common, and of indexes. -/
structure TableAnswers.Rearranged (a b : TableAnswers) : Prop where
  columns : Agrees (SameRows fun rows => (rows.map (·.ordinal)).Nodup)
    a.columns b.columns
  primaryKey : Agrees List.Perm a.primaryKey b.primaryKey
  foreignKeys : Agrees (SameRows fun rows => (rows.map (·.column)).Nodup)
    a.foreignKeys b.foreignKeys
  indexes : Agrees (SameRows Unambiguous) a.indexes b.indexes
  rowEstimate : a.rowEstimate = b.rowEstimate

/-- The same tables are listed, in any order and as often as may be, and the same is said about
each. -/
structure CatalogSource.Rearranged (a b : CatalogSource) : Prop where
  space_eq : a.space = b.space
  tables : Agrees (fun l m => ∀ name, name ∈ l ↔ name ∈ m) a.tables b.tables
  answers : ∀ name, a.Lists name → (a.answers name).Rearranged (b.answers name)

namespace Agrees

variable {ε α : Type} {R : α → α → Prop} {x y : Except ε α}

theorem failureIn_eq (h : Agrees R x y) : failureIn x = failureIn y := by
  cases h <;> rfl

theorem isOk_eq (h : Agrees R x y) : x.isOk = y.isOk := by
  cases h <;> rfl

theorem map_eq {β : Type} {f : α → β} (h : Agrees R x y) (hf : ∀ a b, R a b → f a = f b) :
    x.map f = y.map f := by
  cases h with
  | error e => rfl
  | ok hab => exact congrArg Except.ok (hf _ _ hab)

/-- What holds of related rows and of no rows holds of the rows taken from the answers. -/
theorem getD {ρ : Type} {R S : List ρ → List ρ → Prop} {x y : Except ε (List ρ)}
    (h : Agrees R x y) (hnil : S [] []) (hR : ∀ l m, R l m → S l m) :
    S (x.toOption.getD []) (y.toOption.getD []) := by
  cases h with
  | error e => exact hnil
  | ok hlm => exact hR _ _ hlm

end Agrees

/-! ## A source in reverse -/

/-- The source that answers with the rows of the other in reverse. -/
def CatalogSource.reversed (source : CatalogSource) : CatalogSource where
  space := source.space
  tables := source.tables.map List.reverse
  columns table := (source.columns table).map List.reverse
  primaryKey table := (source.primaryKey table).map List.reverse
  foreignKeys table := (source.foreignKeys table).map List.reverse
  indexes table := (source.indexes table).map List.reverse
  rowEstimate := source.rowEstimate

/-- A source whose answers may come in any order, with two indexes over one column. -/
def CatalogSource.orderly : CatalogSource where
  space := "public"
  tables := .ok ["users", "orders"]
  columns
    | "users" => .ok [⟨"id", "integer", false, 1, none, true⟩,
        ⟨"mail", "text", true, 2, none, false⟩]
    | _ => .ok [⟨"id", "integer", false, 1, none, true⟩,
        ⟨"user", "integer", false, 2, none, false⟩]
  primaryKey _ := .ok ["id"]
  foreignKeys
    | "orders" => .ok [⟨"user", ⟨"users", "id"⟩⟩, ⟨"id", ⟨"ghosts", "id"⟩⟩]
    | _ => .error (.general "denied")
  indexes
    | "users" => .ok [⟨"by_mail", "mail", true⟩, ⟨"by_both", "mail", false⟩,
        ⟨"by_both", "id", false⟩]
    | _ => .ok []
  rowEstimate _ := .ok (some 7)

theorem agrees_reverse {ε ρ : Type} {P : List ρ → Prop} {x : Except ε (List ρ)}
    (h : ∀ l, x = .ok l → P l) : Agrees (SameRows P) x (x.map List.reverse) := by
  cases x with
  | error e => exact .error e
  | ok l => exact .ok (.inr ⟨(List.reverse_perm l).symm, h l rfl⟩)

theorem CatalogSource.rearranged_orderly : orderly.Rearranged orderly.reversed := by
  refine ⟨rfl, .ok fun name => by rw [List.mem_reverse], ?_⟩
  rintro name ⟨names, hnames, hname⟩
  cases hnames
  simp only [List.mem_cons, List.not_mem_nil, or_false] at hname
  rcases hname with rfl | rfl
  · exact ⟨agrees_reverse fun l hl => by cases hl; decide, .ok (.refl _), .error _,
      agrees_reverse fun l hl => by cases hl; decide, rfl⟩
  · exact ⟨agrees_reverse fun l hl => by cases hl; decide, .ok (.refl _),
      agrees_reverse fun l hl => by cases hl; decide,
      agrees_reverse fun l hl => by cases hl; decide, rfl⟩

/-! ## Failures -/

namespace Survey

/-- A survey that follows a plan fails with the first fatal failure of its calls, if there is one. -/
theorem Follows.failureIn_outcome {α : Type} {source : CatalogSource} {x : Survey α}
    {plan : List CatalogCall} (h : x.Follows source plan) :
    failureIn x.outcome = (plan.findSome? source.fatal?).map (·.told) := by
  cases h with
  | ends before after c e plan_eq harmless fatal _ outcome_eq =>
    have hfirst : plan.findSome? source.fatal? = some e :=
      List.findSome?_eq_some_iff.2 ⟨before, c, after, plan_eq, fatal, harmless⟩
    rw [outcome_eq, hfirst]
    rfl
  | completes a harmless _ outcome_eq =>
    have hnone : plan.findSome? source.fatal? = none := List.findSome?_eq_none_iff.2 harmless
    rw [outcome_eq, hnone]
    rfl

end Survey

theorem OrderedSet.ofList_eq_of_mem_iff {l m : List String} (h : ∀ x, x ∈ l ↔ x ∈ m) :
    OrderedSet.ofList l = OrderedSet.ofList m := by
  refine OrderedMap.ext_get? fun x => ?_
  apply Option.ext
  intro ()
  rw [← OrderedSet.mem_toList_iff, ← OrderedSet.mem_toList_iff, OrderedSet.mem_ofList,
    OrderedSet.mem_ofList, h]

namespace CatalogSource.Rearranged

variable {a b : CatalogSource} (h : a.Rearranged b)

include h

theorem lists_iff (name : String) : a.Lists name ↔ b.Lists name := by
  have htables := h.tables
  unfold Lists
  generalize a.tables = x, b.tables = y at htables
  cases htables with
  | error e => simp
  | ok hlm => simp [hlm name]

theorem listedNames_eq : Schema.listedNames a = Schema.listedNames b := by
  refine congrArg OrderedSet.toList (OrderedSet.ofList_eq_of_mem_iff fun name => ?_)
  exact h.tables.getD (S := fun l m => name ∈ l ↔ name ∈ m) .rfl fun l m hlm => hlm name

theorem callsFor_eq {name : String} (hname : a.Lists name) : a.callsFor name = b.callsFor name := by
  have hcolumns : (a.columns name).isOk = (b.columns name).isOk :=
    (h.answers name hname).columns.isOk_eq
  rw [callsFor, callsFor, hcolumns]

theorem failure?_part_eq {name : String} (hname : a.Lists name) (part : CatalogPart) :
    a.failure? (.part part name) = b.failure? (.part part name) := by
  have hanswers := h.answers name hname
  cases part with
  | columns => exact hanswers.columns.failureIn_eq
  | primaryKey => exact hanswers.primaryKey.failureIn_eq
  | foreignKeys => exact hanswers.foreignKeys.failureIn_eq
  | indexes => exact hanswers.indexes.failureIn_eq
  | rowEstimate => exact congrArg failureIn hanswers.rowEstimate

/-- Both surveys have one plan, in which the same calls are fatal. -/
theorem findSome?_fatal?_eq :
    (a.plan (Schema.listedNames a)).findSome? a.fatal? =
      (b.plan (Schema.listedNames b)).findSome? b.fatal? := by
  have hlisted {name : String} (hname : name ∈ Schema.listedNames a) : a.Lists name := by
    rw [Schema.listedNames, OrderedSet.mem_ofList] at hname
    exact exists_answer hname
  have hplan : a.plan (Schema.listedNames a) = b.plan (Schema.listedNames b) := by
    rw [plan, plan, ← h.listedNames_eq]
    exact congrArg (CatalogCall.tables :: ·)
      (List.flatMap_congr fun name hname => h.callsFor_eq (hlisted hname))
  rw [← hplan, ← List.head?_filterMap, ← List.head?_filterMap]
  refine congrArg List.head? (List.filterMap_congr fun c hc => ?_)
  have hfailure : a.failure? c = b.failure? c := by
    rcases List.mem_cons.1 hc with rfl | hc
    · exact h.tables.failureIn_eq
    · obtain ⟨name, hname, hc⟩ := List.mem_flatMap.1 hc
      obtain ⟨part, rfl⟩ := mem_callsFor hc
      exact h.failure?_part_eq (hlisted hname) part
  rw [fatal?, fatal?, hfailure]

end CatalogSource.Rearranged

/-! ## Columns -/

/-- Rows with their own ordinals have only one order by them. -/
theorem columnsOfRows_eq_of_sameRows {l m : List ColumnRow}
    (h : SameRows (fun rows => (rows.map (·.ordinal)).Nodup) l m) :
    columnsOfRows l = columnsOfRows m := by
  rcases h with rfl | ⟨hperm, hnodup⟩
  · rfl
  have hsorted (rows : List ColumnRow) :
      (rows.mergeSort fun r s => r.ordinal ≤ s.ordinal).Pairwise fun r s =>
        decide (r.ordinal ≤ s.ordinal) = true := by
    apply List.pairwise_mergeSort
    · intro r s t hrs hst
      simp only [decide_eq_true_eq] at hrs hst ⊢
      exact Int.le_trans hrs hst
    · intro r s
      simpa using Int.le_total r.ordinal s.ordinal
  have hsort : l.mergeSort (fun r s => r.ordinal ≤ s.ordinal) =
      m.mergeSort fun r s => r.ordinal ≤ s.ordinal := by
    refine List.Perm.eq_of_pairwise (fun r s hr hs hrs hsr => ?_) (hsorted l) (hsorted m)
      ((List.mergeSort_perm l _).trans (hperm.trans (List.mergeSort_perm m _).symm))
    rw [List.mem_mergeSort] at hr hs
    rw [decide_eq_true_eq] at hrs hsr
    exact List.inj_on_of_nodup_map hnodup hr (hperm.mem_iff.2 hs) (Int.le_antisymm hrs hsr)
  rw [columnsOfRows, columnsOfRows, hsort]

/-- With one row for each column, the rows of a column are one at most. -/
theorem filter_eq_of_sameRows {l m : List ForeignKeyRow}
    (h : SameRows (fun rows => (rows.map (·.column)).Nodup) l m) (column : String) :
    l.filter (·.column == column) = m.filter (·.column == column) := by
  rcases h with rfl | ⟨hperm, hnodup⟩
  · rfl
  have hany (rows : List ForeignKeyRow) : rows.Pairwise fun _ _ => True :=
    List.pairwise_of_forall fun _ _ => trivial
  refine List.Perm.eq_of_pairwise (fun r s hr hs _ _ => ?_) (hany _) (hany _) (hperm.filter _)
  obtain ⟨hr, hrcolumn⟩ := List.mem_filter.1 hr
  obtain ⟨hs, hscolumn⟩ := List.mem_filter.1 hs
  refine List.inj_on_of_nodup_map hnodup hr (hperm.mem_iff.2 hs) ?_
  rw [eq_of_beq hrcolumn, eq_of_beq hscolumn]

namespace TableAnswers.Rearranged

variable {a b : TableAnswers} (h : a.Rearranged b)

include h

theorem sameMarks : a.SameMarks b := by
  refine ⟨fun column => ?_, fun column => ?_, fun column r => ?_⟩
  · exact h.primaryKey.getD (S := fun l m => column ∈ l ↔ column ∈ m) .rfl fun l m hlm =>
      hlm.mem_iff
  · have hrows := h.foreignKeys.getD
      (S := fun l m => l.filter (·.column == column) = m.filter (·.column == column)) rfl
      fun l m hlm => filter_eq_of_sameRows hlm column
    rw [targetsOf, targetsOf, hrows]
  · have hrows := h.indexes.getD (S := fun l m => r ∈ l ↔ r ∈ m) .rfl fun l m hlm =>
      hlm.elim (fun heq => heq ▸ .rfl) fun hperm => hperm.1.mem_iff
    rw [indexRowsOf, indexRowsOf, List.mem_filter, List.mem_filter, hrows]

/-- The index rows of a column stand in the same order, or do not contradict each other. -/
theorem indexRowsOf_eq_or (column : String) :
    a.indexRowsOf column = b.indexRowsOf column ∨
      Unambiguous (a.indexRowsOf column) ∧ Unambiguous (b.indexRowsOf column) := by
  refine h.indexes.getD (S := fun l m =>
    l.filter (·.column == column) = m.filter (·.column == column) ∨
      Unambiguous (l.filter (·.column == column)) ∧ Unambiguous (m.filter (·.column == column)))
    (.inl rfl) fun l m hlm => ?_
  rcases hlm with rfl | ⟨hperm, hl⟩
  · exact .inl rfl
  · refine .inr ⟨fun i hi j hj => hl i (List.mem_of_mem_filter hi) j (List.mem_of_mem_filter hj),
      fun i hi j hj => ?_⟩
    exact hl i (hperm.mem_iff.2 (List.mem_of_mem_filter hi)) j
      (hperm.mem_iff.2 (List.mem_of_mem_filter hj))

end TableAnswers.Rearranged

/-- Where the rows about a column do not contradict each other, its indexes are what they say. -/
theorem Column.MarkedBy.mem_indexes_iff {a : TableAnswers} {c : Column} (h : c.MarkedBy a)
    (hrows : Unambiguous (a.indexRowsOf c.name)) {i : ColumnIndex} :
    i ∈ c.indexes ↔ ∃ r ∈ a.indexRowsOf c.name, i = ⟨r.name, r.isUnique⟩ := by
  constructor
  · intro hi
    obtain ⟨r, hr, hunique⟩ := Option.map_eq_some_iff.1 (h.isUnique_of_mem i hi)
    have hname : r.name = i.name := by simpa using List.find?_some hr
    refine ⟨r, List.mem_of_find?_eq_some hr, ?_⟩
    rw [hname, hunique]
  · rintro ⟨r, hr, rfl⟩
    have hname : r.name ∈ c.indexes.map (·.name) := by
      rw [h.names_indexes, List.mem_eraseDups]
      exact List.mem_map_of_mem hr
    obtain ⟨j, hj, hjname⟩ := List.mem_map.1 hname
    obtain ⟨s, hs, hunique⟩ := Option.map_eq_some_iff.1 (h.isUnique_of_mem j hj)
    have hsname : s.name = j.name := by simpa using List.find?_some hs
    have hcolumn : s.column = r.column := by
      have hscolumn := (List.mem_filter.1 (List.mem_of_find?_eq_some hs)).2
      have hrcolumn := (List.mem_filter.1 hr).2
      rw [eq_of_beq hscolumn, eq_of_beq hrcolumn]
    have hsame : s.isUnique = r.isUnique :=
      hrows s (List.mem_of_find?_eq_some hs) r hr (hsname.trans hjname) hcolumn
    have hj' : j = ⟨r.name, r.isUnique⟩ := by
      rw [← hjname, ← hsame, hunique]
    exact hj' ▸ hj

theorem Column.MarkedBy.mem_indexes_congr {a b : TableAnswers} (h : a.Rearranged b) {c d : Column}
    (hc : c.MarkedBy a) (hd : d.MarkedBy b) (hname : c.name = d.name) (i : ColumnIndex) :
    i ∈ c.indexes ↔ i ∈ d.indexes := by
  have hrows := h.indexRowsOf_eq_or c.name
  rw [hname] at hrows
  rcases hrows with heq | ⟨ha, hb⟩
  · rw [hc.indexes_eq hd (hname ▸ heq)]
  · rw [hc.mem_indexes_iff (hname ▸ ha), hd.mem_indexes_iff hb]
    simp only [hname, h.sameMarks.mem_indexRowsOf_iff]

/-! ## Tables -/

namespace Table

theorem MadeOf.alike {a b : TableAnswers} (h : a.Rearranged b) {t u : Table} (ht : t.MadeOf a)
    (hu : u.MadeOf b) (hname : t.name = u.name) (hspace : t.space = u.space) : t.Alike u := by
  obtain ⟨hestimate, hpairs⟩ := ht.forall₂ hu
    (h.columns.map_eq fun _ _ hrows => columnsOfRows_eq_of_sameRows hrows) h.rowEstimate
  have houtlines : t.columns.map (·.outline) = u.columns.map (·.outline) := by
    refine map_eq_of_forall₂ hpairs fun c d ⟨hbare, hordinal, hc, hd⟩ => ?_
    exact congrArg (·.outline) (hc.eq_up_to_indexes hd h.sameMarks hbare hordinal)
  have hindexes : t.indexes = u.indexes := by
    refine indexes_eq_of_mem_iff fun i => mem_flatMap_iff_of_forall₂ hpairs ?_
    intro c d ⟨hbare, _, hc, hd⟩
    exact hc.mem_indexes_congr h hd (congrArg (·.name) hbare) i
  rw [Alike, outline, outline, houtlines, hname, hspace, hestimate, hindexes]

end Table

/-! ## Schemas -/

namespace Schema

theorem outline_eq_of_madeOf {a b : CatalogSource} (h : a.Rearranged b) {s r : Schema}
    (hs : s.MadeOf a) (hr : r.MadeOf b) : s.outline = r.outline := by
  refine OrderedMap.ext_get? fun name => ?_
  rw [outline, outline, OrderedMap.get?_mapValues, OrderedMap.get?_mapValues]
  show (s.table? name).map (·.outline) = (r.table? name).map (·.outline)
  by_cases hlists : a.Lists name
  · obtain ⟨t, ht⟩ := mem_tables_iff.1 ((hs.mem_keys_iff name).2 hlists)
    obtain ⟨u, hu⟩ := mem_tables_iff.1 ((hr.mem_keys_iff name).2 ((h.lists_iff name).1 hlists))
    obtain ⟨-, htname, htspace, htmade⟩ := (hs.table?_iff name t).1 ht
    obtain ⟨-, huname, huspace, humade⟩ := (hr.table?_iff name u).1 hu
    rw [ht, hu]
    exact congrArg some (htmade.alike (h.answers name hlists) humade (htname.trans huname.symm)
      (htspace.trans (h.space_eq.trans huspace.symm)))
  · have hnone : s.table? name = none := by
      rw [Option.eq_none_iff_forall_ne_some]
      exact fun t ht => hlists ((hs.table?_iff name t).1 ht).1
    have hnone' : r.table? name = none := by
      rw [Option.eq_none_iff_forall_ne_some]
      exact fun u hu => hlists ((h.lists_iff name).2 ((hr.table?_iff name u).1 hu).1)
    rw [hnone, hnone']

theorem indistinct_of_outline {s r : Schema} (h : s.outline = r.outline) : s.Indistinct r :=
  indistinct_of_queries_eq (JoinGraph.build_eq_of_resembles (resembles_of_outline h))
    (Generator.queries_eq_of_resembles (resembles_of_outline h))

end Schema

/-- The order in which a source answers cannot be told from what comes of a survey. -/
theorem CatalogSource.Rearranged.indistinct {a b : CatalogSource} (h : a.Rearranged b)
    (sourceName : String) (time time' : Calendar.Moment) :
    (∃ e, (Schema.survey sourceName a time).outcome = .error e ∧
        (Schema.survey sourceName b time').outcome = .error e) ∨
      ∃ s r, (Schema.survey sourceName a time).outcome = .ok s ∧
        (Schema.survey sourceName b time').outcome = .ok r ∧ s.Indistinct r := by
  have hfailure : failureIn (Schema.survey sourceName a time).outcome =
      failureIn (Schema.survey sourceName b time').outcome := by
    rw [(Schema.survey_follows sourceName a time).failureIn_outcome, h.findSome?_fatal?_eq,
      ← (Schema.survey_follows sourceName b time').failureIn_outcome]
  cases hs : (Schema.survey sourceName a time).outcome with
  | error e =>
    cases hr : (Schema.survey sourceName b time').outcome with
    | error e' =>
      rw [hs, hr] at hfailure
      exact .inl ⟨e, rfl, congrArg Except.error (Option.some.inj hfailure).symm⟩
    | ok r =>
      rw [hs, hr] at hfailure
      contradiction
  | ok s =>
    cases hr : (Schema.survey sourceName b time').outcome with
    | error e =>
      rw [hs, hr] at hfailure
      contradiction
    | ok r =>
      obtain ⟨names, tables, hnames, htables, rfl⟩ := Schema.survey_eq_ok_iff.1 hs
      obtain ⟨names', tables', hnames', htables', rfl⟩ := Schema.survey_eq_ok_iff.1 hr
      have houtline := Schema.outline_eq_of_madeOf h
        (Schema.madeOf_analyzed hnames htables sourceName time)
        (Schema.madeOf_analyzed hnames' htables' sourceName time')
      exact .inr ⟨_, _, rfl, rfl, Schema.indistinct_of_outline houtline⟩

theorem CatalogSource.Rearranged.indistinct_orderly :
    orderly.Rearranged orderly.reversed ∧
      ∃ s r, (Schema.survey "shop" orderly (.newYear 2024)).outcome = .ok s ∧
        (Schema.survey "shop" orderly.reversed (.newYear 2025)).outcome = .ok r ∧
        s.Indistinct r := by
  have hok : (Schema.survey "shop" orderly (.newYear 2024)).outcome.isOk = true := by decide +kernel
  refine ⟨rearranged_orderly, ?_⟩
  rcases rearranged_orderly.indistinct "shop" (.newYear 2024) (.newYear 2025) with ⟨e, he, -⟩ | h
  · rw [he] at hok
    contradiction
  · exact h

end SqlWorkload
