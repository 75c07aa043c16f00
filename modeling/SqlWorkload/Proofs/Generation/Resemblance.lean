import SqlWorkload.Generation.Generator
import SqlWorkload.Query.Dialect
import SqlWorkload.Proofs.Random.Coupling
/-!
# What queries depend on

Of a column the generator looks at the name, the family of the type, the length and the reference;
of a table at its two names, its columns in order and the indexes of the table as a whole. Schemas
that agree in this resemble each other, whatever else is different in them. They have the same join
graph, and the draws over them are coupled, so that they give the same queries.

    schemas that resemble each other have one join graph       (JoinGraph.build_eq_of_resembles)
    walks over them meet such tables by the same joins         (coupled_expand)
    each query over one is drawn over the other                (query_eq_of_resembles)
    sequences over them are the same                           (Generator.queries_eq_of_resembles)
    they cannot be told apart by what is made of them          (Schema.indistinct_of_resembles)
-/

namespace SqlWorkload

open SqlWorkload.Random

/-! ## Lists side by side -/

theorem forall₂_of_map_eq {α β : Type} {f : α → β} {l l' : List α} (h : l.map f = l'.map f) :
    List.Forall₂ (fun a b => f a = f b) l l' := by
  rw [← List.forall₂_eq_eq_eq, List.forall₂_map_left_iff, List.forall₂_map_right_iff] at h
  exact h

theorem map_eq_of_forall₂ {α β : Type} {R : α → α → Prop} {f : α → β} {l l' : List α}
    (h : List.Forall₂ R l l') (hf : ∀ a b, R a b → f a = f b) : l.map f = l'.map f := by
  rw [← List.forall₂_eq_eq_eq, List.forall₂_map_left_iff, List.forall₂_map_right_iff]
  exact h.imp hf

theorem eq_nil_iff_of_forall₂ {α β : Type} {R : α → β → Prop} {l : List α} {l' : List β}
    (h : List.Forall₂ R l l') : l = [] ↔ l' = [] := by
  cases h <;> simp

/-- What is done with lists unless they are empty. -/
theorem dite_nil_eq_of_forall₂ {α β γ : Type} {R : α → β → Prop} {l : List α} {l' : List β}
    (h : List.Forall₂ R l l') {x : γ} {f : l ≠ [] → γ} {f' : l' ≠ [] → γ}
    (hf : ∀ hne hne', f hne = f' hne') :
    (if hnil : l = [] then x else f hnil) = if hnil : l' = [] then x else f' hnil := by
  by_cases hnil : l = []
  · rw [dif_pos hnil, dif_pos ((eq_nil_iff_of_forall₂ h).1 hnil)]
  · have hnil' : l' ≠ [] := fun h' => hnil ((eq_nil_iff_of_forall₂ h).2 h')
    rw [dif_neg hnil, dif_neg hnil', hf hnil hnil']

theorem rel_lookup_of_forall₂ {α : Type} {R : α → α → Prop} {l l' : List (String × α)}
    (h : List.Forall₂ (fun e e' => e.1 = e'.1 ∧ R e.2 e'.2) l l') (key : String) :
    Option.Rel R (l.lookup key) (l'.lookup key) := by
  induction h with
  | nil => exact .none
  | @cons e e' _ _ he _ ih =>
    obtain ⟨name, a⟩ := e
    obtain ⟨_, a'⟩ := e'
    obtain ⟨rfl, ha⟩ := he
    by_cases hkey : key = name
    · simpa [List.lookup_cons, hkey] using ha
    · simpa [List.lookup_cons, beq_eq_false_iff_ne.2 hkey] using ih

/-! ## Resemblance -/

/-- The columns differ in nothing that the generator looks at. The types may be spelt in two ways,
if both are of one family. -/
structure Column.Resembles (c d : Column) : Prop where
  name_eq : c.name = d.name
  family_eq : c.family = d.family
  maxLength_eq : c.maxLength = d.maxLength
  references_eq : c.references = d.references

/-- An index may be over other columns, if it is one of the table all the same. -/
structure Table.Resembles (t u : Table) : Prop where
  name_eq : t.name = u.name
  space_eq : t.space = u.space
  columns : List.Forall₂ Column.Resembles t.columns u.columns
  indexes_eq : t.indexes = u.indexes

/-- The tables have the same keys, and those with one key resemble each other. -/
structure Schema.Resembles (s r : Schema) : Prop where
  keys_eq : s.tables.keys = r.tables.keys
  tables : ∀ e ∈ s.tables.entries, ∀ e' ∈ r.tables.entries, e.1 = e'.1 → e.2.Resembles e'.2

instance : DecidableRel Column.Resembles := fun c d =>
  decidable_of_iff (c.name = d.name ∧ c.family = d.family ∧ c.maxLength = d.maxLength ∧
      c.references = d.references)
    ⟨fun ⟨hn, hf, hm, hr⟩ => ⟨hn, hf, hm, hr⟩, fun ⟨hn, hf, hm, hr⟩ => ⟨hn, hf, hm, hr⟩⟩

instance : DecidableRel Table.Resembles := fun t u =>
  decidable_of_iff (t.name = u.name ∧ t.space = u.space ∧
      List.Forall₂ Column.Resembles t.columns u.columns ∧ t.indexes = u.indexes)
    ⟨fun ⟨hn, hs, hc, hi⟩ => ⟨hn, hs, hc, hi⟩, fun ⟨hn, hs, hc, hi⟩ => ⟨hn, hs, hc, hi⟩⟩

instance : DecidableRel Schema.Resembles := fun s r =>
  decidable_of_iff (s.tables.keys = r.tables.keys ∧
      ∀ e ∈ s.tables.entries, ∀ e' ∈ r.tables.entries, e.1 = e'.1 → e.2.Resembles e'.2)
    ⟨fun ⟨hk, ht⟩ => ⟨hk, ht⟩, fun ⟨hk, ht⟩ => ⟨hk, ht⟩⟩

theorem Column.Resembles.symm {c d : Column} (h : c.Resembles d) : d.Resembles c :=
  ⟨h.name_eq.symm, h.family_eq.symm, h.maxLength_eq.symm, h.references_eq.symm⟩

theorem Table.Resembles.symm {t u : Table} (h : t.Resembles u) : u.Resembles t :=
  ⟨h.name_eq.symm, h.space_eq.symm, (h.columns.imp fun _ _ hc => hc.symm).flip,
    h.indexes_eq.symm⟩

theorem Table.exists_column_iff {t : Table} {name : String} :
    (∃ c, t.column? name = some c) ↔ name ∈ t.columns.map (·.name) := by
  rw [column?, ← Option.isSome_iff_exists, List.find?_isSome]
  simp

namespace Schema.Resembles

variable {s r : Schema} (h : s.Resembles r)

include h

theorem symm : r.Resembles s :=
  ⟨h.keys_eq.symm, fun e he e' he' hkey => (h.tables e' he' e he hkey.symm).symm⟩

theorem entries : List.Forall₂ (fun e e' => e.1 = e'.1 ∧ e.2.Resembles e'.2) s.tables.entries
    r.tables.entries := by
  have hkeys : List.Forall₂ (fun e e' => e.1 = e'.1) s.tables.entries r.tables.entries :=
    forall₂_of_map_eq h.keys_eq
  rw [List.forall₂_iff_zip] at hkeys ⊢
  refine ⟨hkeys.1, fun {e e'} hzip => ?_⟩
  obtain ⟨he, he'⟩ := List.of_mem_zip hzip
  have hkey := hkeys.2 hzip
  exact ⟨hkey, h.tables e he e' he' hkey⟩

theorem values : List.Forall₂ Table.Resembles s.tables.values r.tables.values := by
  rw [OrderedMap.values, OrderedMap.values, List.forall₂_map_left_iff, List.forall₂_map_right_iff]
  exact h.entries.imp fun _ _ he => he.2

theorem table? (name : String) : Option.Rel Table.Resembles (s.table? name) (r.table? name) :=
  rel_lookup_of_forall₂ h.entries name

/-! ## Join graphs -/

/-- Whether a reference leads somewhere depends on names only. -/
theorem exists_column {table column : String}
    (hs : ∃ t, s.table? table = some t ∧ ∃ c, t.column? column = some c) :
    ∃ u, r.table? table = some u ∧ ∃ d, u.column? column = some d := by
  obtain ⟨t, ht, hc⟩ := hs
  have htable := h.table? table
  rw [ht] at htable
  cases hu : r.table? table with
  | none => simp [hu] at htable
  | some u =>
    rw [hu, Option.rel_some_some] at htable
    have hnames := map_eq_of_forall₂ htable.columns fun _ _ hcd => hcd.name_eq
    rw [Table.exists_column_iff, hnames, ← Table.exists_column_iff] at hc
    exact ⟨u, rfl, hc⟩

theorem edge?_eq {t u : Table} (ht : t.Resembles u) {c d : Column} (hc : c.Resembles d) :
    s.edge? t c = r.edge? u d := by
  apply Option.ext
  intro e
  rw [edge?_eq_some_iff, edge?_eq_some_iff, hc.references_eq, hc.name_eq, ht.name_eq]
  constructor
  · rintro ⟨target, htarget, hs, rfl⟩
    exact ⟨target, htarget, h.exists_column hs, rfl⟩
  · rintro ⟨target, htarget, hr, rfl⟩
    exact ⟨target, htarget, h.symm.exists_column hr, rfl⟩

theorem foreignKeyEdges_eq : s.foreignKeyEdges = r.foreignKeyEdges := by
  rw [← List.forall₂_eq_eq_eq]
  refine List.rel_flatMap h.values fun t u ht => ?_
  refine List.rel_filterMap (fun c d hc => ?_) ht.columns
  rw [h.edge?_eq ht hc]
  cases r.edge? u d with
  | none => exact .none
  | some e => exact .some rfl

end Schema.Resembles

theorem JoinGraph.build_eq_of_resembles {s r : Schema} (h : s.Resembles r) : build s = build r := by
  have htables : ofTables s.tables = ofTables r.tables := by
    rw [ofTables, ofTables, mk.injEq]
    exact OrderedMap.ext (map_eq_of_forall₂ h.entries fun _ _ he => by rw [he.1])
  rw [build, build, htables, h.foreignKeyEdges_eq]

namespace Generation

/-! ## Joins -/

/-- Where a walk may go depends on the names of the tables that it has met. -/
theorem frontier_eq_of_names {graph : JoinGraph} {tables tables' : List Table}
    (h : tables.map (·.name) = tables'.map (·.name)) :
    frontier graph tables = frontier graph tables' := by
  have key (tables : List Table) : frontier graph tables =
      (((tables.map (·.name)).flatMap fun t =>
        (graph.neighbors t).map fun e => (e, e.otherEnd t)).filter
          fun x => !(tables.map (·.name)).any (· == x.2)) := by
    simp only [frontier, List.flatMap_map, List.any_map, Function.comp_def]
  rw [key, key, h]

/-- The induction goes along the walk: both have met such tables, so that they can go on along the
same edges, and the tables there resemble each other again. -/
theorem coupled_expand {s r : Schema} (h : s.Resembles r) (graph : JoinGraph) (limit : Nat)
    {tables tables' : List Table} (ht : List.Forall₂ Table.Resembles tables tables') :
    Draw.Coupled (fun x y => List.Forall₂ Table.Resembles x.1 y.1 ∧ x.2 = y.2)
      (expand s graph limit tables) (expand r graph limit tables') := by
  induction limit generalizing tables tables' with
  | zero => exact Draw.coupled_pure ⟨ht, rfl⟩
  | succ limit ih =>
    have hfrontier : frontier graph tables = frontier graph tables' :=
      frontier_eq_of_names (map_eq_of_forall₂ ht fun _ _ htu => htu.name_eq)
    unfold expand
    split
    · next hnil =>
      rw [dif_pos (hfrontier ▸ hnil)]
      exact Draw.coupled_pure ⟨ht, rfl⟩
    · next hne =>
      rw [dif_neg (hfrontier ▸ hne)]
      have hpick := Draw.coupled_pick (List.forall₂_eq_eq_eq ▸ hfrontier) hne (hfrontier ▸ hne)
      refine hpick.bind fun (edge, name) _ hx => ?_
      subst hx
      have htable := h.table? name
      dsimp only
      cases hs : s.table? name <;> cases hr : r.table? name <;> simp only [hs, hr] at htable
      · exact Draw.coupled_pure ⟨ht, rfl⟩
      · contradiction
      · contradiction
      · next t u =>
        rw [Option.rel_some_some] at htable
        have hrest := ih (List.rel_append ht (.cons htable .nil))
        refine hrest.bind fun (all, joins) (all', _) hx => ?_
        obtain ⟨hall, rfl⟩ := hx
        rw [htable.name_eq]
        exact Draw.coupled_pure ⟨hall, rfl⟩

/-! ## Clauses -/

structure Candidate.Resembles (c d : Candidate) : Prop where
  table_eq : c.table = d.table
  column : c.column.Resembles d.column

namespace Candidate.Resembles

variable {c d : Candidate} (h : c.Resembles d)

include h

theorem ref_eq : c.ref = d.ref := by
  rw [ref, ref, h.table_eq, h.column.name_eq]

theorem family_eq : c.family = d.family := h.column.family_eq

end Candidate.Resembles

theorem candidates_resemble {tables tables' : List Table}
    (h : List.Forall₂ Table.Resembles tables tables') :
    List.Forall₂ Candidate.Resembles (candidates tables) (candidates tables') := by
  refine List.rel_flatMap h fun t u ht => ?_
  exact List.rel_map (fun c d hc => ⟨ht.name_eq, hc⟩) ht.columns

theorem eligible_resemble {columns columns' : List Candidate}
    (h : List.Forall₂ Candidate.Resembles columns columns') (keys : List ColumnRef) :
    List.Forall₂ (fun c d => c.val.Resembles d.val) (eligible columns keys)
      (eligible columns' keys) := by
  refine List.rel_filterMap (fun c d hc => ?_) h
  by_cases hcomparable : c.family.isComparable = true
  · rw [dif_pos hcomparable, dif_pos (hc.family_eq ▸ hcomparable), hc.ref_eq]
    by_cases hkey : d.ref ∈ keys
    · rw [if_pos hkey, if_pos hkey]
      exact .none
    · rw [if_neg hkey, if_neg hkey]
      exact .some hc
  · rw [dif_neg hcomparable, dif_neg (hc.family_eq ▸ hcomparable)]
    exact .none

theorem tokenUpTo_congr {m n : Nat} (h : m = n) (hm : 0 < m) (hn : 0 < n) :
    tokenUpTo m hm = tokenUpTo n hn := by
  subst h
  rfl

/-- A literal depends on the family of the type, and for a text on its length. -/
theorem literal_eq_of_resembles {c d : Column} (h : c.Resembles d) (op : CompareOp) :
    literal c op = literal d op := by
  have hlimit : tokenLimit c = tokenLimit d := by
    rw [tokenLimit, tokenLimit, h.maxLength_eq]
  unfold literal
  rw [h.family_eq, tokenUpTo_congr hlimit _ (tokenLimit_pos d),
    tokenUpTo_congr (congrArg (min · maxPattern) hlimit) _
      (Nat.lt_min.2 ⟨tokenLimit_pos d, by decide⟩)]

section

variable {columns columns' : List { c : Candidate // c.family.isComparable = true }}
  (h : List.Forall₂ (fun c d => c.val.Resembles d.val) columns columns')

include h

theorem predicate_eq_of_resemble (hne : columns ≠ []) (hne' : columns' ≠ []) :
    predicate columns hne = predicate columns' hne' := by
  refine (Draw.coupled_pick h hne hne').bind_eq fun c d hcd => ?_
  rw [Draw.pick_congr (congrArg TypeFamily.operators hcd.family_eq) _
    (TypeFamily.operators_ne_nil d.property)]
  simp only [literal_eq_of_resembles hcd.column, hcd.ref_eq]

theorem predicates_eq_of_resemble (most : Nat) :
    predicates most columns = predicates most columns' := by
  unfold predicates
  congr 1
  funext count
  refine dite_nil_eq_of_forall₂ h fun hne hne' => ?_
  rw [predicate_eq_of_resemble h hne hne']

end

section

variable {columns columns' : List Candidate}
  (h : List.Forall₂ Candidate.Resembles columns columns')

include h

theorem aggregate_eq_of_resemble (hne : columns ≠ []) (hne' : columns' ≠ []) :
    aggregate columns hne = aggregate columns' hne' := by
  refine (Draw.coupled_pick h hne hne').bind_eq fun c d hcd => ?_
  rw [Draw.pick_congr (congrArg TypeFamily.aggregates hcd.family_eq) _
    (TypeFamily.aggregates_ne_nil _), hcd.ref_eq]

theorem aggregates_eq_of_resemble (most : Nat) :
    aggregates most columns = aggregates most columns' := by
  unfold aggregates
  congr 1
  funext count
  refine dite_nil_eq_of_forall₂ h fun hne hne' => ?_
  rw [aggregate_eq_of_resemble h hne hne']

end

/-- As `chooseColumns`, of columns that are given by their positions. -/
def chooseAt (least most length : Nat) (ref : Fin length → ColumnRef) : Draw (List ColumnRef) :=
  if h : min length most < least then return []
  else do
    let more ← Draw.below (min length most - least + 1) (Nat.succ_pos _)
    let chosen ← Draw.sample length (least + more) (by omega)
    return (chosen.mergeSort (· ≤ ·)).map ref

theorem chooseColumns_eq_chooseAt (least most : Nat) (columns : List Candidate) :
    chooseColumns least most columns =
      chooseAt least most columns.length fun i => (columns.get i).ref := rfl

theorem chooseAt_congr (least most : Nat) {n n' : Nat} {ref : Fin n → ColumnRef}
    {ref' : Fin n' → ColumnRef} (hn : n = n')
    (href : ∀ i (hi : i < n) (hi' : i < n'), ref ⟨i, hi⟩ = ref' ⟨i, hi'⟩) :
    chooseAt least most n ref = chooseAt least most n' ref' := by
  subst hn
  congr 1
  funext i
  exact href i i.isLt i.isLt

theorem chooseColumns_eq_of_resemble (least most : Nat) {columns columns' : List Candidate}
    (h : List.Forall₂ Candidate.Resembles columns columns') :
    chooseColumns least most columns = chooseColumns least most columns' := by
  rw [chooseColumns_eq_chooseAt, chooseColumns_eq_chooseAt]
  refine chooseAt_congr least most h.length_eq fun i hi hi' => ?_
  exact Candidate.Resembles.ref_eq (h.get hi hi')

/-! ## Hints -/

theorem indexHint_eq_of_resembles (params : Parameters) {t u : Table} (h : t.Resembles u) :
    indexHint params t = indexHint params u := by
  have hcandidates : hintCandidates t = hintCandidates u := by
    rw [hintCandidates, hintCandidates, h.indexes_eq]
  unfold indexHint
  rw [h.name_eq]
  generalize hintCandidates t = names at hcandidates ⊢
  subst hcandidates
  rfl

theorem indexHints_eq_of_resemble (params : Parameters) {tables tables' : List Table}
    (h : List.Forall₂ Table.Resembles tables tables') :
    indexHints params tables = indexHints params tables' := by
  induction h with
  | nil => rfl
  | cons ht _ ih => rw [indexHints, indexHints, indexHint_eq_of_resembles params ht, ih]

/-! ## Queries -/

theorem queryOver_eq_of_resemble (params : Parameters) {anchor anchor' : Table}
    (ha : anchor.Resembles anchor') {tables tables' : List Table}
    (h : List.Forall₂ Table.Resembles tables tables') (joins : List Join) :
    queryOver params anchor tables joins = queryOver params anchor' tables' joins := by
  have hcolumns := candidates_resemble h
  unfold queryOver projection hints
  simp only [ha.space_eq, ha.name_eq, predicates_eq_of_resemble (eligible_resemble hcolumns _),
    aggregates_eq_of_resemble hcolumns, chooseColumns_eq_of_resemble _ _ hcolumns,
    indexHints_eq_of_resemble params h]

theorem query_eq_of_resembles {s r : Schema} (h : s.Resembles r) (graph : JoinGraph)
    (params : Parameters) (hs : s.tables.values ≠ []) (hr : r.tables.values ≠ []) :
    query s graph params hs = query r graph params hr := by
  refine (Draw.coupled_pick h.values hs hr).bind_eq fun anchor anchor' ha => ?_
  have hlimit : joinLimit graph params anchor = joinLimit graph params anchor' := by
    rw [joinLimit, joinLimit, ha.name_eq]
  rw [hlimit]
  have hexpand := coupled_expand h graph (joinLimit graph params anchor') (.cons ha .nil)
  refine hexpand.bind_eq fun (tables, joins) (tables', _) hx => ?_
  obtain ⟨ht, rfl⟩ := hx
  exact queryOver_eq_of_resemble params ha ht joins

end Generation

/-! ## Sequences -/

namespace Generator

/-- The same generator over another schema. -/
def withSchema (g : Generator) (s : Schema) : Generator := { g with schema := s }

theorem next?_of_query {g : Generator} {hne : g.schema.tables.values ≠ []} {x : Query × Stream}
    (hx : Generation.query g.schema g.graph g.params hne g.stream = x)
    (hlt : g.emitted < g.params.numQueries) :
    g.next? = some (x.1, { g with stream := x.2, emitted := g.emitted + 1 }) := by
  rw [next?, dif_neg hne, if_neg (Nat.not_le.2 hlt), hx]

variable {s r : Schema} (h : s.Resembles r)

include h

theorem remaining_withSchema (g : Generator) :
    (g.withSchema s).remaining = (g.withSchema r).remaining :=
  if_congr (eq_nil_iff_of_forall₂ h.values) rfl rfl

/-- A step over both schemas. Either both are done, or they give the same query and go on with the
same of the stream left. -/
theorem next?_withSchema (g : Generator) :
    ((g.withSchema s).next? = none ∧ (g.withSchema r).next? = none) ∨
      ∃ q g', (g.withSchema s).next? = some (q, withSchema g' s) ∧
        (g.withSchema r).next? = some (q, withSchema g' r) := by
  have hnil := eq_nil_iff_of_forall₂ h.values
  by_cases hdone : (g.withSchema r).remaining = 0
  · have hdone' : (g.withSchema s).remaining = 0 := (remaining_withSchema h g).trans hdone
    exact .inl ⟨next?_eq_none_iff.2 hdone', next?_eq_none_iff.2 hdone⟩
  · have hr : r.tables.values ≠ [] := fun hr => hdone (if_pos hr)
    have hs : s.tables.values ≠ [] := fun hs => hr (hnil.1 hs)
    have hlt : g.emitted < g.params.numQueries := by
      have hremaining : (g.withSchema r).remaining = g.params.numQueries - g.emitted := if_neg hr
      omega
    obtain ⟨x, hx⟩ : ∃ x, Generation.query r g.graph g.params hr g.stream = x := ⟨_, rfl⟩
    have hx' : Generation.query s g.graph g.params hs g.stream = x := by
      rw [Generation.query_eq_of_resembles h g.graph g.params hs hr, hx]
    exact .inr ⟨x.1, { g with stream := x.2, emitted := g.emitted + 1 },
      next?_of_query (g := g.withSchema s) hx' hlt, next?_of_query (g := g.withSchema r) hx hlt⟩

theorem take_withSchema (n : Nat) (g : Generator) :
    (take n (g.withSchema s)).1 = (take n (g.withSchema r)).1 := by
  induction n generalizing g with
  | zero => rfl
  | succ n ih =>
    rcases next?_withSchema h g with ⟨hs, hr⟩ | ⟨q, g', hs, hr⟩
    · simp only [take, hs, hr]
    · simp only [take, hs, hr, ih]

theorem queries_withSchema (g : Generator) :
    (g.withSchema s).queries = (g.withSchema r).queries := by
  rw [queries, queries, remaining_withSchema h, take_withSchema h]

/-- The whole way from parameters to queries, over one schema and over the other. -/
theorem queries_eq_of_resembles (graph : JoinGraph) (params : Parameters) :
    (start s graph params).map queries = (start r graph params).map queries := by
  unfold start
  cases params.checked with
  | error e => rfl
  | ok p =>
    have hqueries := queries_withSchema h ⟨s, graph, p, .ofSeed p.seed, 0⟩
    exact congrArg Except.ok hqueries

end Generator

/-! ## Schemas that cannot be told apart -/

/-- No difference between the schemas is seen in their join graphs, nor in what is generated over
them. -/
structure Schema.Indistinct (s r : Schema) : Prop where
  graph_eq : JoinGraph.build s = JoinGraph.build r
  queries_eq : ∀ params, (Generator.start s (.build s) params).map (·.queries) =
    (Generator.start r (.build r) params).map (·.queries)
  texts_eq : ∀ params (d : Dialect),
    (Generator.start s (.build s) params).map (fun g => g.queries.map d.render) =
      (Generator.start r (.build r) params).map (fun g => g.queries.map d.render)

namespace Schema

variable {s r : Schema}

/-- The texts are no more than the queries written out. -/
theorem indistinct_of_queries_eq (hgraph : JoinGraph.build s = JoinGraph.build r)
    (hqueries : ∀ graph params, (Generator.start s graph params).map (·.queries) =
      (Generator.start r graph params).map (·.queries)) : s.Indistinct r := by
  refine ⟨hgraph, fun params => ?_, fun params d => ?_⟩
  · rw [hgraph]
    exact hqueries _ params
  · have hmap (x : Except ParameterError Generator) :
        x.map (fun g => g.queries.map d.render) = (x.map (·.queries)).map (List.map d.render) := by
      cases x <;> rfl
    rw [hgraph, hmap, hmap, hqueries]

/-- Nothing but what schemas resemble each other in has a part in what is made of them. -/
theorem indistinct_of_resembles (h : s.Resembles r) : s.Indistinct r :=
  indistinct_of_queries_eq (JoinGraph.build_eq_of_resembles h) (Generator.queries_eq_of_resembles h)

def library : Schema :=
  .analyzed "library"
    [{ name := "books", space := "public", rowEstimate := some 1200
       columns :=
        [{ name := "id", dataType := "integer", isNullable := false, ordinal := 1
           isAutoIncrement := true, isPrimaryKey := true },
         { name := "title", dataType := "varchar", maxLength := some 40, ordinal := 2
           hasIndex := true, indexes := [⟨"books_idx", false⟩] }] },
     { name := "loans", space := "public"
       columns :=
        [{ name := "book", dataType := "integer", ordinal := 1
           references := some ⟨"books", "id"⟩ },
         { name := "due", dataType := "timestamp without time zone", ordinal := 2 }] }]
    (.newYear 2024)

/-- The same tables as another source may describe them, not analyzed yet. -/
def librarySketch : Schema where
  source := "sketch"
  tables := .ofList
    [("books",
      { name := "books", space := "public"
        columns :=
         [{ name := "id", dataType := "BIGINT", hasIndex := true, isUniqueIndex := true
            indexes := [⟨"books_idx", false⟩] },
          { name := "title", dataType := "text", isNullable := false, maxLength := some 40
            ordinal := 9 }] }),
     ("loans",
      { name := "loans", space := "public", rowEstimate := some (-1)
        columns :=
         [{ name := "book", dataType := "smallint", isPrimaryKey := true
            references := some ⟨"books", "id"⟩ },
          { name := "due", dataType := "datetime", isNullable := false }] })]

theorem indistinct_of_resembles_library :
    library.Resembles librarySketch ∧ library.Indistinct librarySketch := by
  have h : library.Resembles librarySketch := by decide +kernel
  exact ⟨h, indistinct_of_resembles h⟩

end Schema

end SqlWorkload
