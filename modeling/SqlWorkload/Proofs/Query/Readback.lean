import SqlWorkload.Proofs.Query.HintComment
import SqlWorkload.Proofs.Query.Literals
import SqlWorkload.Proofs.Query.Names
/-!
# Queries read back

The text of a statement says which query it is. Names may contain whatever they like, since they
are quoted; what stands between them tells the clauses apart.

    statements in standard SQL are the same ↔ the queries are, but for their hints
    statements in PostgreSQL are the same ↔ the queries are, with their hints
                                                                  (Query.alike_iff_render)
-/

namespace SqlWorkload

open Text

/-! ## Definitions -/

/-- The same predicate, its literal as far as it is written. -/
structure Predicate.Alike (p r : Predicate) : Prop where
  column : p.column = r.column
  op : p.op = r.op
  value : p.value.Alike r.value

/-- Predicates with the same text. -/
structure Predicate.SameText (p r : Predicate) : Prop where
  column : p.column = r.column
  op : p.op = r.op
  form : p.value.form = r.value.form

/-- The same query but for its hints, its literals as far as they are written. -/
structure Query.Alike (q r : Query) : Prop where
  space : q.space = r.space
  source : q.source = r.source
  joins : q.joins = r.joins
  projection : q.projection = r.projection
  aggregates : q.aggregates = r.aggregates
  predicates : List.Forall₂ Predicate.Alike q.predicates r.predicates
  groupBy : q.groupBy = r.groupBy

/-- The projected columns and then the aggregates. -/
def Query.selected (q : Query) : List (ColumnRef ⊕ Aggregate) :=
  q.projection.map Sum.inl ++ q.aggregates.map Sum.inr

/-- No time of the query has a fraction of a second. -/
def Query.IsWhole (q : Query) : Prop := ∀ p ∈ q.predicates, p.value.IsWhole

instance (q : Query) : Decidable q.IsWhole :=
  inferInstanceAs (Decidable (∀ p ∈ q.predicates, p.value.IsWhole))

theorem Query.selected_inj {q r : Query} (h : q.selected = r.selected) :
    q.projection = r.projection ∧ q.aggregates = r.aggregates := by
  have left (q : Query) : q.selected.filterMap Sum.getLeft? = q.projection := by
    simp [selected, List.filterMap_map, Function.comp_def]
  have right (q : Query) : q.selected.filterMap Sum.getRight? = q.aggregates := by
    simp [selected, List.filterMap_map, Function.comp_def]
  exact ⟨by rw [← left, h, left], by rw [← right, h, right]⟩

namespace Dialect

/-! ## Names -/

section

variable (d : Dialect)

/-- What stands between names is never their quote mark. -/
theorem ne_mark : ∀ c ∈ [' ', ';', '.', ',', ')'], c ≠ d.mark := by
  cases d <;> simp [mark]

theorem head_ne_mark {c : Char} (h : c ∈ [' ', ';', '.', ',', ')']) (s : List Char) :
    (c :: s).head? ≠ some d.mark := by
  rw [List.head?_cons, ne_eq, Option.some.injEq]
  exact d.ne_mark c h

theorem head_ne_mark_of_continues {but s : List Char} (hs : Continues but s) :
    s.head? ≠ some d.mark :=
  hs.head?_ne (d.ne_mark ' ' (by decide)).symm (d.ne_mark ';' (by decide)).symm

theorem delimits_column :
    Delimits (fun c => (d.column c).toList) Eq fun s => s.head? ≠ some d.mark := by
  have htable := d.delimits_ident.comap ColumnRef.table
  have hcolumn := (d.delimits_ident.comap ColumnRef.column).after ".".toList
  have h := htable.append hcolumn fun c s _ => d.head_ne_mark (by decide) _
  refine (h.imp (fun b c ⟨htable, hcolumn⟩ => ?_) fun _ h => h).congr fun c => by simp [column]
  cases b
  cases c
  simp_all

theorem delimits_qualified {d : Dialect} (hd : d ≠ mysql) :
    Delimits (fun x : String × String => (d.qualified x.1 x.2).toList) Eq
      fun s => s.head? ≠ some d.mark ∧ s.head? ≠ some '.' := by
  have text (space table : String) : (d.qualified space table).toList =
      if space = "" then (d.ident table).toList
      else (d.ident space).toList ++ '.' :: (d.ident table).toList := by
    by_cases hspace : space = "" <;> simp [qualified, hd, hspace]
  have hdot (s : List Char) : ('.' :: s).head? ≠ some d.mark := d.head_ne_mark (by decide) s
  rintro ⟨space, table⟩ ⟨space', table'⟩ s t ⟨hs, hs'⟩ ⟨ht, ht'⟩ h
  simp only [text] at h
  split at h <;> split at h
  · next hspace hspace' =>
    obtain ⟨rfl, hst⟩ := d.delimits_ident hs ht h
    exact ⟨by rw [hspace, hspace'], hst⟩
  · rw [List.append_assoc, List.cons_append] at h
    obtain ⟨-, rfl⟩ := d.delimits_ident hs (hdot _) h
    exact absurd rfl hs'
  · rw [List.append_assoc, List.cons_append] at h
    obtain ⟨-, rfl⟩ := d.delimits_ident (hdot _) ht h
    exact absurd rfl ht'
  · simp only [List.append_assoc, List.cons_append] at h
    obtain ⟨rfl, htable⟩ := d.delimits_ident (hdot _) (hdot _) h
    obtain ⟨rfl, hst⟩ := d.delimits_ident hs ht (List.cons.inj htable).2
    exact ⟨rfl, hst⟩

/-! ## The select list -/

theorem delimits_aggregate :
    Delimits (fun a => (d.aggregate a).toList) Eq fun _ => True := by
  have hfunction : Delimits (fun a : Aggregate => a.function.sql.toList)
      (fun a b => a.function.sql.toList = b.function.sql.toList)
      fun s => ∀ c ∈ s.head?, ¬ c ≠ '(' :=
    delimits_run fun a => by cases a.function <;> simp [AggregateFunction.sql]
  have hcolumn := ((d.delimits_column.comap Aggregate.column).after ['(']).closed (k := [')'])
    fun s => d.head_ne_mark (by decide) s
  have h := hfunction.append hcolumn (by simp)
  refine (h.imp (fun a b ⟨hfunction, hcolumn⟩ => ?_) fun _ h => h).congr
    fun a => by simp [aggregate]
  have sql_inj : ∀ f g : AggregateFunction, f.sql.toList = g.sql.toList → f = g := by
    intro f g
    cases f <;> cases g <;> decide
  have hfunction := sql_inj _ _ hfunction
  cases a
  cases b
  simp_all

/-- A projected column or an aggregate. -/
def selectText : ColumnRef ⊕ Aggregate → String := Sum.elim d.column d.aggregate

theorem head_column (c : ColumnRef) : (d.column c).toList.head? = some d.mark := by
  simp [column]

theorem head_aggregate (a : Aggregate) :
    ∃ c ∈ ['C', 'S', 'A', 'M'], (d.aggregate a).toList.head? = some c := by
  cases h : a.function <;> simp [aggregate, h, AggregateFunction.sql]

/-- Neither quotes nor function names begin with an asterisk. -/
theorem head_selectText (x : ColumnRef ⊕ Aggregate) :
    ∃ c, (d.selectText x).toList.head? = some c ∧ c ≠ '*' := by
  cases x with
  | inl c => exact ⟨d.mark, d.head_column c, by cases d <;> decide⟩
  | inr a =>
    obtain ⟨c, hc, hhead⟩ := d.head_aggregate a
    exact ⟨c, hhead, (by simp : ∀ c ∈ ['C', 'S', 'A', 'M'], c ≠ '*') c hc⟩

theorem delimits_selectText :
    Delimits (fun x => (d.selectText x).toList) Eq fun s => s.head? ≠ some d.mark := by
  have hne (c : ColumnRef) (a : Aggregate) (s t : List Char) :
      (d.column c).toList ++ s ≠ (d.aggregate a).toList ++ t := by
    intro h
    have hhead := congrArg List.head? h
    obtain ⟨l, hl, ha⟩ := d.head_aggregate a
    rw [List.head?_append, d.head_column, List.head?_append, ha] at hhead
    obtain rfl : d.mark = l := Option.some.inj hhead
    revert hl
    cases d <;> decide
  rintro (c | a) (c' | a') s t hs ht h
  · obtain ⟨rfl, hst⟩ := d.delimits_column hs ht h
    exact ⟨rfl, hst⟩
  · exact absurd h (hne c a' s t)
  · exact absurd h.symm (hne c' a t s)
  · obtain ⟨rfl, hst⟩ := d.delimits_aggregate trivial trivial h
    exact ⟨rfl, hst⟩

theorem selectList_eq (q : Query) :
    d.selectList q =
      if q.selected = [] then "*" else joinWith ", " (q.selected.map d.selectText) := by
  have hall : q.selectsAll = true ↔ q.selected = [] := by
    simp [Query.selectsAll, Query.selected]
  have hitems : q.selected.map d.selectText =
      q.projection.map d.column ++ q.aggregates.map d.aggregate := by
    simp [Query.selected, selectText, Function.comp_def]
  rw [selectList, hitems]
  by_cases h : q.selected = []
  · rw [if_pos (hall.2 h), if_pos h]
  · rw [if_neg (mt hall.1 h), if_neg h]

theorem delimits_selectList :
    Delimits (fun q => (d.selectList q).toList)
      (fun q r => q.projection = r.projection ∧ q.aggregates = r.aggregates)
      fun s => s.head? = some ' ' := by
  have hblank {s : List Char} (hs : s.head? = some ' ') : s.head? ≠ some d.mark := by
    rw [hs, ne_eq, Option.some.injEq]
    exact d.ne_mark ' ' (by decide)
  have hlist : Delimits (fun l : { l : List (ColumnRef ⊕ Aggregate) // l ≠ [] } =>
      (joinWith ", " (l.val.map d.selectText)).toList) (fun l m => List.Forall₂ Eq l.val m.val)
      fun s => s.head? = some ' ' :=
    d.delimits_selectText.joinWith (fun _ => hblank) (fun s => d.head_ne_mark (by decide) _)
      fun x s => by simp
  have hall (l : List (ColumnRef ⊕ Aggregate)) (hl : l ≠ []) (s t : List Char) :
      "*".toList ++ s ≠ (joinWith ", " (l.map d.selectText)).toList ++ t := by
    intro h
    obtain ⟨x, l, rfl⟩ := List.exists_cons_of_ne_nil hl
    obtain ⟨c, hc, hne⟩ := d.head_selectText x
    have hhead := congrArg List.head? h
    rw [List.map_cons, toList_joinWith_cons, List.append_assoc, List.head?_append,
      List.head?_append, hc] at hhead
    exact hne (Option.some.inj hhead).symm
  intro q r s t hs ht h
  suffices q.selected = r.selected ∧ s = t from ⟨Query.selected_inj this.1, this.2⟩
  simp only [selectList_eq] at h
  split at h <;> split at h
  · next hq hr => exact ⟨hq.trans hr.symm, (List.cons.inj h).2⟩
  · next hr => exact absurd h (hall _ hr s t)
  · next hq _ => exact absurd h.symm (hall _ hq t s)
  · next hq hr =>
    obtain ⟨hl, hst⟩ := hlist (a := ⟨_, hq⟩) (b := ⟨_, hr⟩) hs ht h
    exact ⟨List.forall₂_eq_eq_eq ▸ hl, hst⟩

/-! ## Joins, predicates and groups -/

theorem delimits_joinClause {d : Dialect} (hd : d ≠ mysql) :
    Delimits (fun x : String × Join => (" JOIN " ++ d.qualified x.1 x.2.table ++ " ON " ++
      d.column x.2.edge.fromRef ++ " = " ++ d.column x.2.edge.toRef).toList) Eq
      fun s => s.head? ≠ some d.mark := by
  have htable := ((delimits_qualified hd).comap
    fun x : String × Join => (x.1, x.2.table)).after " JOIN ".toList
  have hfrom := (d.delimits_column.comap
    fun x : String × Join => x.2.edge.fromRef).after " ON ".toList
  have hto := (d.delimits_column.comap fun x : String × Join => x.2.edge.toRef).after " = ".toList
  have h := (htable.append hfrom fun x s _ => ⟨d.head_ne_mark (by decide) _, by simp⟩).append hto
    fun x s _ => d.head_ne_mark (by decide) _
  refine (h.imp (fun x y ⟨⟨htable, hfrom⟩, hto⟩ => ?_) fun _ h => h).congr fun x => by simp
  obtain ⟨space, table, edge⟩ := x
  obtain ⟨space', table', edge'⟩ := y
  cases edge
  cases edge'
  simp_all [ForeignKeyEdge.fromRef, ForeignKeyEdge.toRef]

theorem delimits_joins {d : Dialect} (hd : d ≠ mysql) :
    Delimits (fun q : Query => (String.join (q.joins.map (d.joinClause q))).toList)
      (fun q r => q.joins = r.joins) (Continues ['J']) := by
  have h := ((delimits_joinClause hd).flatMap (E := Continues ['J'])
    (fun s hs => d.head_ne_mark_of_continues hs) (fun x s => by simp [d.ne_mark])
    fun x s => by simp [Continues]).comap fun q : Query => q.joins.map (Prod.mk q.space)
  refine (h.imp (fun q r hjoins => ?_) fun _ h => h).congr fun q => ?_
  · have hjoins := congrArg (List.map Prod.snd) (List.forall₂_eq_eq_eq ▸ hjoins)
    simpa [Function.comp_def] using hjoins
  · simp [List.flatMap_map, joinClause, tableRef, hd]

theorem delimits_predicate :
    Delimits (fun p => (d.predicate p).toList) Predicate.SameText (Continues ['\'']) := by
  have hop : Delimits (fun op : CompareOp => op.sql.toList) Eq
      fun s => ∀ c ∈ s.head?, ¬ c ≠ ' ' := by
    refine (delimits_run fun op => ?_).imp (fun op op' h => ?_) fun _ h => h
    · cases op <;> simp [CompareOp.sql]
    · revert h
      cases op <;> cases op' <;> decide
  have hcolumn := d.delimits_column.comap Predicate.column
  have hop := (hop.comap Predicate.op).after [' ']
  have hvalue := (Literal.delimits.comap Predicate.value).after [' ']
  have h := (hcolumn.append hop fun p s _ => d.head_ne_mark (by decide) _).append hvalue (by simp)
  exact (h.imp (fun p r ⟨⟨hcolumn, hop⟩, hform⟩ => ⟨hcolumn, hop, hform⟩) fun _ h => h).congr
    fun p => by simp [predicate]

theorem whereClause_eq (predicates : List Predicate) :
    d.whereClause predicates = clause " WHERE " " AND " (predicates.map d.predicate) := by
  cases predicates <;> rfl

theorem groupClause_eq (columns : List ColumnRef) :
    d.groupClause columns = clause " GROUP BY " ", " (columns.map d.column) := by
  cases columns <;> rfl

theorem delimits_whereClause :
    Delimits (fun predicates => (d.whereClause predicates).toList)
      (List.Forall₂ Predicate.SameText) (Continues ['J', 'W', 'A', '\'']) := by
  refine (d.delimits_predicate.clause (fun s hs => hs.mono (by simp)) (fun s => ?_)
    (fun p s => ?_) fun s => ?_).congr fun predicates => by rw [whereClause_eq]
  · simp [Continues]
  · simp [Continues]
  · simp [Continues]

theorem delimits_groupClause :
    Delimits (fun columns => (d.groupClause columns).toList) Eq
      (Continues ['J', 'W', 'A', '\'', 'G']) := by
  refine ((d.delimits_column.clause (fun s hs => ?_) (fun s => ?_) (fun c s => ?_)
    fun s => ?_).imp (fun l m h => List.forall₂_eq_eq_eq ▸ h) fun _ h => h).congr
      fun columns => by rw [groupClause_eq]
  · exact d.head_ne_mark_of_continues hs
  · exact d.head_ne_mark (by decide) _
  · simp [Continues]
  · simp [Continues]

/-- What follows a clause that may be left out. -/
theorem continues_clause {keyword sep : String} {items : List String} {c : Char}
    {more but but' s : List Char} (hkeyword : keyword.toList = ' ' :: c :: more) (hc : c ∉ but)
    (hsub : but ⊆ but') (hs : Continues but' s) :
    Continues but ((clause keyword sep items).toList ++ s) := by
  cases items with
  | nil => exact hs.mono hsub
  | cons item items =>
    rw [clause, String.toList_append, hkeyword]
    · exact .inr ⟨c, _, rfl, hc⟩
    · simp

end

/-! ## Statements -/

theorem delimits_clauses {d : Dialect} (hd : d ≠ mysql) :
    Delimits (fun q => (d.clauses q).toList)
      (fun q r => (((q.projection = r.projection ∧ q.aggregates = r.aggregates) ∧
        (q.space, q.source) = (r.space, r.source)) ∧ q.joins = r.joins) ∧
        List.Forall₂ Predicate.SameText q.predicates r.predicates ∧ q.groupBy = r.groupBy)
      (Continues ['J', 'W', 'A', '\'', 'G']) := by
  have hsource := ((delimits_qualified hd).comap fun q : Query => (q.space, q.source)).after
    " FROM ".toList
  have hwhere := d.delimits_whereClause.comap Query.predicates
  have hgroup := d.delimits_groupClause.comap Query.groupBy
  refine (((d.delimits_selectList.append hsource ?_).append (delimits_joins hd) ?_).append
    (hwhere.append hgroup ?_) ?_).congr fun q => ?_
  · simp
  · intro q s hs
    cases hjoins : q.joins with
    | nil => exact ⟨d.head_ne_mark_of_continues hs, hs.head?_ne (by decide) (by decide)⟩
    | cons j joins => simp [joinClause, d.ne_mark]
  · intro q s hs
    rw [groupClause_eq]
    exact continues_clause rfl (by decide) (by simp) hs
  · intro q s hs
    have hs : Continues ['J', 'W', 'A', '\''] ((d.groupClause q.groupBy).toList ++ s) := by
      rw [groupClause_eq]
      exact continues_clause rfl (by decide) (by simp) hs
    rw [whereClause_eq, List.append_assoc]
    exact continues_clause rfl (by decide) (by simp) hs
  · simp [clauses, tableRef, hd]

/-! ## Hints -/

/-- There is no hint that PostgreSQL cannot be given. -/
theorem exists_hintMethod_postgres (h : Hint) :
    ∃ method, postgres.hintMethod h = some method := by
  cases h with
  | useIndex table index => exact ⟨_, rfl⟩
  | noIndex table => exact ⟨_, rfl⟩
  | joinMethod left right strategy => cases strategy <;> exact ⟨_, rfl⟩

/-- The method tells the kind of hint, and the names tell the rest. -/
theorem hint_eq_of_method {h k : Hint} (hmethod : postgres.hintMethod h = postgres.hintMethod k)
    (hnames : h.names = k.names) : h = k := by
  cases h with
  | useIndex table index =>
    cases k with
    | useIndex table' index' => simp_all [Hint.names]
    | noIndex table' => simp [Hint.names] at hnames
    | joinMethod left right strategy => cases strategy <;> simp [hintMethod] at hmethod
  | noIndex table =>
    cases k with
    | useIndex table' index' => simp [Hint.names] at hnames
    | noIndex table' => simp_all [Hint.names]
    | joinMethod left right strategy => simp [Hint.names] at hnames
  | joinMethod left right strategy =>
    cases k with
    | useIndex table' index' => cases strategy <;> simp [hintMethod] at hmethod
    | noIndex table' => simp [Hint.names] at hnames
    | joinMethod left' right' strategy' =>
      have hstrategy : strategy = strategy' := by
        cases strategy <;> cases strategy' <;> simp_all [hintMethod]
      simp_all [Hint.names]

theorem delimits_hintItem :
    Delimits (fun h => ((postgres.hintItem h).getD "").toList) Eq fun _ => True := by
  have hmethod : Delimits (fun h => ((postgres.hintMethod h).getD "").toList)
      (fun h k =>
        ((postgres.hintMethod h).getD "").toList = ((postgres.hintMethod k).getD "").toList)
      fun s => ∀ c ∈ s.head?, ¬ c ≠ '(' := by
    refine delimits_run fun h c hc => ?_
    obtain ⟨method, hm⟩ := exists_hintMethod_postgres h
    rw [hm] at hc
    exact fun heq => not_mem_of_mem_hintMethod hm c hc (heq ▸ List.mem_cons_self)
  have hnames : Delimits (fun l : { l : List String // l ≠ [] } =>
      (joinWith " " (l.val.map postgres.ident)).toList) (fun l m => List.Forall₂ Eq l.val m.val)
      fun s => s.head? = some ')' := by
    refine postgres.delimits_ident.joinWith (fun s hs => ?_)
      (fun s => postgres.head_ne_mark (by decide) _) fun name s => ?_
    · rw [hs]; decide
    · simp
  have hne (h : Hint) : h.names ≠ [] := by cases h <;> simp [Hint.names]
  have hcall := ((hnames.comap fun h : Hint => ⟨h.names, hne h⟩).after ['(']).closed (k := [')'])
    fun s => rfl
  have hitem := hmethod.append hcall (by simp)
  refine (hitem.imp (fun h k heq => ?_) fun _ h => h).congr fun h => ?_
  · obtain ⟨hmethod, hnames⟩ := heq
    refine hint_eq_of_method ?_ (List.forall₂_eq_eq_eq ▸ hnames)
    obtain ⟨m, hm⟩ := exists_hintMethod_postgres h
    obtain ⟨n, hn⟩ := exists_hintMethod_postgres k
    rw [hm, hn] at hmethod ⊢
    exact congrArg some (String.toList_inj.1 hmethod)
  · obtain ⟨m, hm⟩ := exists_hintMethod_postgres h
    simp [hintItem_eq, hintCall, hm, callText, nameSeparator]

/-- The hint comment and a blank, or nothing. -/
def hintLead (d : Dialect) (hints : List Hint) : String :=
  (d.hintComment hints).elim "" (· ++ " ")

theorem hintLead_postgres (hints : List Hint) :
    postgres.hintLead hints =
      if hints = [] then "" else
        "/*+ " ++ joinWith " " (hints.map fun h => (postgres.hintItem h).getD "") ++ " */ " := by
  have hitems : hints.filterMap postgres.hintItem =
      hints.map fun h => (postgres.hintItem h).getD "" := by
    rw [← List.filterMap_eq_map]
    refine List.filterMap_congr fun h _ => ?_
    obtain ⟨m, hm⟩ := exists_hintMethod_postgres h
    simp [hintItem_eq, hintCall, hm]
  cases hints with
  | nil => rfl
  | cons h hints =>
    rw [hintLead, hintComment, hitems]
    simp [← String.toList_inj]

theorem head_hintItem (h : Hint) :
    ∃ c, ((postgres.hintItem h).getD "").toList.head? = some c ∧ c ≠ '*' := by
  cases h with
  | useIndex table index => simp [hintItem]
  | noIndex table => simp [hintItem]
  | joinMethod left right strategy => cases strategy <;> simp [hintItem]

theorem delimits_hintLead :
    Delimits (fun hints => (postgres.hintLead hints).toList) Eq fun s => s.head? = some 'S' := by
  have hlist : Delimits (fun l : { l : List Hint // l ≠ [] } =>
      (joinWith " " (l.val.map fun h => (postgres.hintItem h).getD "")).toList)
      (fun l m => List.Forall₂ Eq l.val m.val) fun s => ∃ rest, s = ' ' :: '*' :: rest := by
    refine delimits_hintItem.joinWith (fun _ _ => trivial) (fun _ => trivial) fun h s hend => ?_
    obtain ⟨rest, hrest⟩ := hend
    obtain ⟨c, hc, hne⟩ := head_hintItem h
    have hitem : ((postgres.hintItem h).getD "").toList ++ s = '*' :: rest := by simpa using hrest
    have hhead := congrArg List.head? hitem
    rw [List.head?_append, hc] at hhead
    exact hne (Option.some.inj hhead)
  have hcomment := ((hlist.closed (k := " */ ".toList) fun s => ⟨_, rfl⟩).after "/*+ ".toList)
  intro l m s t hs ht h
  simp only [hintLead_postgres] at h
  split at h <;> split at h
  · next hl hm => exact ⟨hl.trans hm.symm, h⟩
  · rw [String.toList_empty, List.nil_append] at h
    exact absurd hs (by rw [h]; simp)
  · rw [String.toList_empty, List.nil_append] at h
    exact absurd ht (by rw [← h]; simp)
  · next hl hm =>
    rw [String.append_assoc, String.append_assoc, String.toList_append, String.toList_append,
      String.toList_append, String.toList_append] at h
    obtain ⟨hlm, hst⟩ := hcomment (a := ⟨l, hl⟩) (b := ⟨m, hm⟩) trivial trivial h
    exact ⟨List.forall₂_eq_eq_eq ▸ hlm, hst⟩

/-! ## Queries -/

theorem render_ansi (q : Query) : ansi.render q = "SELECT " ++ ansi.clauses q ++ ";" := by
  rw [render_of_none (hintComment_ansi q.hints)]
  simp [opening, remainder]

theorem render_postgres (q : Query) :
    postgres.render q = postgres.hintLead q.hints ++ ("SELECT " ++ postgres.clauses q ++ ";") := by
  cases h : postgres.hintComment q.hints with
  | none => simp [render_of_none h, hintLead, h, opening, remainder]
  | some comment => simp [render_of_some h, hintLead, h, opening, remainder, String.append_assoc]

end Dialect

namespace Query

variable {q r : Query}

theorem Alike.clauses_eq (h : q.Alike r) {d : Dialect} (hd : d ≠ .mysql) :
    d.clauses q = d.clauses r := by
  have hpredicates : q.predicates.map d.predicate = r.predicates.map d.predicate := by
    rw [← List.forall₂_eq_eq_eq, List.forall₂_map_left_iff, List.forall₂_map_right_iff]
    refine h.predicates.imp fun p s hps => ?_
    rw [Dialect.predicate, Dialect.predicate, hps.column, hps.op, hps.value.literal_eq]
  have hselect : d.selectList q = d.selectList r := by
    rw [Dialect.selectList, Dialect.selectList, selectsAll, selectsAll, h.projection, h.aggregates]
  have htable (t : String) : d.tableRef q t = d.tableRef r t := by
    rw [Dialect.tableRef, Dialect.tableRef, if_neg hd, if_neg hd, h.space]
  have hjoin : d.joinClause q = d.joinClause r := by
    funext j
    rw [Dialect.joinClause, Dialect.joinClause, htable]
  rw [Dialect.clauses, Dialect.clauses, hselect, htable, hjoin, Dialect.whereClause_eq,
    Dialect.whereClause_eq, hpredicates, h.source, h.joins, h.groupBy]

theorem alike_of_clauses (hq : q.IsWhole) (hr : r.IsWhole) {d : Dialect} (hd : d ≠ .mysql)
    (h : (d.clauses q).toList ++ [';'] = (d.clauses r).toList ++ [';']) : q.Alike r := by
  have hend : Continues ['J', 'W', 'A', '\'', 'G'] [';'] := .inl ⟨[], rfl⟩
  obtain ⟨⟨⟨⟨⟨hprojection, haggregates⟩, hnames⟩, hjoins⟩, hpredicates, hgroup⟩, -⟩ :=
    Dialect.delimits_clauses hd hend hend h
  obtain ⟨hspace, hsource⟩ := Prod.mk.inj hnames
  refine ⟨hspace, hsource, hjoins, hprojection, haggregates, ?_, hgroup⟩
  refine List.forall₂_iff_zip.2 ⟨hpredicates.length_eq, fun {p s} hmem => ?_⟩
  obtain ⟨hp, hs⟩ := List.of_mem_zip hmem
  obtain ⟨hcolumn, hop, hform⟩ := (List.forall₂_iff_zip.1 hpredicates).2 hmem
  exact ⟨hcolumn, hop, Literal.alike_of_form (hq p hp) (hr s hs) hform⟩

theorem alike_iff_render (hq : q.IsWhole) (hr : r.IsWhole) :
    (Dialect.ansi.render q = Dialect.ansi.render r ↔ q.Alike r) ∧
    (Dialect.postgres.render q = Dialect.postgres.render r ↔ q.Alike r ∧ q.hints = r.hints) := by
  constructor
  · rw [Dialect.render_ansi, Dialect.render_ansi]
    constructor
    · intro h
      have h := congrArg String.toList h
      simp only [String.toList_append, List.append_assoc, List.append_cancel_left_eq] at h
      exact alike_of_clauses hq hr (by decide) h
    · intro h
      rw [h.clauses_eq (by decide)]
  · rw [Dialect.render_postgres, Dialect.render_postgres]
    constructor
    · intro h
      have hselect (s : String) : ("SELECT " ++ s ++ ";").toList.head? = some 'S' := by simp
      have h := congrArg String.toList h
      rw [String.toList_append (t := _ ++ ";"), String.toList_append (t := _ ++ ";")] at h
      obtain ⟨hhints, hrest⟩ := Dialect.delimits_hintLead (hselect _) (hselect _) h
      simp only [String.toList_append, List.append_assoc, List.append_cancel_left_eq] at hrest
      exact ⟨alike_of_clauses hq hr (by decide) hrest, hhints⟩
    · rintro ⟨h, hhints⟩
      rw [h.clauses_eq (by decide), hhints]

/-- Orders of a customer compared with a value, under names that hold quotes, dots and keywords. -/
def compared (value : Literal) (hints : List Hint) : Query where
  space := ""
  source := "a\".\"b"
  joins := [⟨" JOIN ", ⟨"a\".\"b", "", " JOIN ", "WHERE"⟩⟩]
  projection := [⟨"a\".\"b", "*"⟩]
  aggregates := [⟨.count, ⟨" JOIN ", "id"⟩⟩]
  predicates := [⟨⟨"a\".\"b", "price"⟩, .lt, value⟩,
    ⟨⟨" JOIN ", "since"⟩, .gt, .timestamp (.newYear 2024)⟩]
  groupBy := [⟨"a\".\"b", "*"⟩]
  hints

/-- An eighth and twelve hundredths are written alike, and a hint is seen in PostgreSQL only. -/
theorem alike_iff_render_compared :
    ∃ q r : Query, q.IsWhole ∧ r.IsWhole ∧ q ≠ r ∧ q.Alike r ∧
      Dialect.ansi.render q = Dialect.ansi.render r ∧
      Dialect.postgres.render q ≠ Dialect.postgres.render r := by
  let q := compared (.decimal (.ofRatio 1 8)) []
  let r := compared (.decimal (.ofRatio 12 100)) [.noIndex " JOIN "]
  have hq : q.IsWhole := by decide
  have hr : r.IsWhole := by decide
  have hlike : q.Alike r :=
    ⟨rfl, rfl, rfl, rfl, rfl,
      .cons ⟨rfl, rfl, .decimal (by decide +kernel)⟩ (.cons ⟨rfl, rfl, .refl _⟩ .nil), rfl⟩
  obtain ⟨hansi, hpostgres⟩ := alike_iff_render hq hr
  refine ⟨q, r, hq, hr, ?_, hlike, hansi.2 hlike, fun h => ?_⟩
  · exact fun h => absurd (congrArg Query.hints h) (by decide)
  · exact absurd (hpostgres.1 h).2 (by decide)

end Query

end SqlWorkload
