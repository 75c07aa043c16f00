import SqlWorkload.Proofs.Query.LineEnds
/-!
# Quotes in statements

How a reader of a dialect finds the quoted parts of a text, and what is outside of them: a mark
begins quotes, and the same mark ends them, unless it is doubled. Whatever the names in a statement
are, such a reader is outside of all quotes at its end, and meets one semicolon there, the last
character.

    behind a mark that may end quotes a reader goes on as outside (step_of_isOpen)
    two texts one after the other are contained if both are       (Contained.append)
    words, names and texts in quotes are contained, and hence all clauses of a statement
                                                                  (contained_clauses)
    a statement is closed, and ends with its only semicolon       (isStatement_render)
-/

namespace SqlWorkload

open Text

/-! ## Readers -/

/-- Where a reader is in a text with quotes. -/
inductive Place where
  | outside
  | inside (q : Char)
  /-- Behind a mark within quotes, which ends them unless the next character doubles it. -/
  | closing (q : Char)
  /-- Behind a backslash that takes its meaning from the next character. -/
  | escaped (q : Char)
deriving DecidableEq

def Place.isOutside : Place → Bool
  | outside | closing _ => true
  | inside _ | escaped _ => false

/-- No text with a backslash. -/
def Literal.IsPlain : Literal → Prop
  | text s => '\\' ∉ s.toList
  | _ => True

instance : DecidablePred Literal.IsPlain
  | .text s => inferInstanceAs (Decidable ('\\' ∉ s.toList))
  | .integer _ | .decimal _ | .boolean _ | .date _ | .timestamp _ | .time _ =>
    inferInstanceAs (Decidable True)

theorem Literal.IsPlain.not_mem_of_body {v : Literal} (hv : v.IsPlain) {body : String}
    (hbody : v.form.body = some body) : '\\' ∉ body.toList := by
  have hdate (d : Calendar.Date) : '\\' ∉ d.text := fun h =>
    (Calendar.Date.mem_text h).elim (by decide) (by decide)
  have hclock (t : Calendar.TimeOfDay) : '\\' ∉ t.clockText := fun h =>
    (Calendar.TimeOfDay.mem_clockText h).elim (by decide) (by decide)
  cases v with
  | text s =>
    cases hbody
    exact hv
  | date d =>
    cases hbody
    simpa using hdate d
  | timestamp m =>
    cases hbody
    simp [hdate, hclock]
  | time t =>
    cases hbody
    simpa using hclock t
  | integer n => cases hbody
  | decimal p => cases hbody
  | boolean b => cases hbody

namespace Dialect

/-- The marks of names and of texts. In MySQL texts may stand in either sort of quotes. -/
def quoteMarks : Dialect → List Char
  | ansi | postgres => ['"', '\'']
  | mysql => ['\x60', '\'', '"']

/-- Whether a backslash in quotes of that mark escapes a character: in MySQL it does in texts. -/
def escapes (d : Dialect) (q : Char) : Bool := d = mysql && q ≠ '\x60'

/-- From outside of quotes. -/
def enter (d : Dialect) (c : Char) : Place := if c ∈ d.quoteMarks then .inside c else .outside

/-- A mark behind its like was the first half of a doubled one. -/
def step (d : Dialect) : Place → Char → Place
  | .outside, c => d.enter c
  | .inside q, c =>
    if c = q then .closing q else if c = '\\' ∧ d.escapes q = true then .escaped q else .inside q
  | .closing q, c => if c = q then .inside q else d.enter c
  | .escaped q, _ => .inside q

/-- Where a reader is that has read the text. -/
def scan (d : Dialect) (p : Place) (s : List Char) : Place := s.foldl d.step p

/-- A reader of the text ends outside of quotes, and of all semicolons just the last character of
the text is outside of them. -/
structure IsStatement (d : Dialect) (text : String) : Prop where
  closed : d.scan .outside text.toList = .outside
  ends : ∃ body, text.toList = body ++ [';']
  semicolon_iff : ∀ before after, text.toList = before ++ ';' :: after →
    ((d.scan .outside before).isOutside = true ↔ after = [])

/-! ## Contained texts -/

/-- The reader is not in quotes: outside, or behind a mark that ends them. -/
def IsOpen (d : Dialect) (p : Place) : Prop := p = .outside ∨ ∃ q ∈ d.quoteMarks, p = .closing q

/-- From where it is not in quotes a reader gets through the text to where it is not, and meets no
semicolon on its way unless within quotes. -/
structure Contained (d : Dialect) (s : String) : Prop where
  isOpen_scan : ∀ p, d.IsOpen p → d.IsOpen (d.scan p s.toList)
  guarded : ∀ p, d.IsOpen p → ∀ before after, s.toList = before ++ ';' :: after →
    (d.scan p before).isOutside = false

/-- A text without marks and semicolons. -/
def IsWord (s : String) : Prop := ∀ c ∈ s.toList, c ∉ [';', '"', '\'', '\x60']

instance (s : String) : Decidable (IsWord s) := List.decidableBAll _ _

section

variable {d : Dialect} {p : Place} {q : Char} {s t : String}

@[simp] theorem scan_nil : d.scan p [] = p := rfl

@[simp] theorem scan_cons (c : Char) (s : List Char) : d.scan p (c :: s) = d.scan (d.step p c) s :=
  rfl

@[simp] theorem scan_append (s t : List Char) : d.scan p (s ++ t) = d.scan (d.scan p s) t :=
  List.foldl_append

theorem mem_marks_of_mem_quoteMarks (h : q ∈ d.quoteMarks) : q ∈ [';', '"', '\'', '\x60'] := by
  cases d <;> revert h <;> simp only [quoteMarks] <;> grind

theorem semicolon_not_mem_quoteMarks : ';' ∉ d.quoteMarks := by cases d <;> decide

theorem isOutside_of_isOpen (h : d.IsOpen p) : p.isOutside = true := by
  rcases h with rfl | ⟨q, -, rfl⟩ <;> rfl

/-- The mark that doubles another begins quotes anew, so that both may be read alike. -/
theorem step_of_isOpen (h : d.IsOpen p) (c : Char) : d.step p c = d.enter c := by
  rcases h with rfl | ⟨q, hq, rfl⟩
  · rfl
  · by_cases hc : c = q
    · rw [step, if_pos hc, enter, if_pos (hc ▸ hq), hc]
    · rw [step, if_neg hc]

theorem contained_empty : d.Contained "" where
  isOpen_scan _ hp := hp
  guarded _ _ before after h := by simp at h

theorem Contained.append (hs : d.Contained s) (ht : d.Contained t) : d.Contained (s ++ t) where
  isOpen_scan p hp := by
    rw [String.toList_append, scan_append]
    exact ht.isOpen_scan _ (hs.isOpen_scan p hp)
  guarded p hp before after h := by
    rw [String.toList_append, List.append_eq_append_iff] at h
    rcases h with ⟨front, rfl, hfront⟩ | ⟨rest, hrest, hsemi⟩
    · rw [scan_append]
      exact ht.guarded _ (hs.isOpen_scan p hp) front after hfront
    · cases rest with
      | nil =>
        have hbefore : before = s.toList := by simpa using hrest.symm
        rw [hbefore]
        exact ht.guarded _ (hs.isOpen_scan p hp) [] after hsemi.symm
      | cons c rest =>
        obtain ⟨rfl, -⟩ := List.cons.inj hsemi
        exact hs.guarded p hp before rest hrest

theorem IsWord.contained (h : IsWord s) : d.Contained s where
  isOpen_scan := by
    unfold IsWord at h
    generalize s.toList = l at h
    induction l with
    | nil => exact fun p hp => hp
    | cons c l ih =>
      rw [List.forall_mem_cons] at h
      intro p hp
      have hc : c ∉ d.quoteMarks := fun hc => h.1 (mem_marks_of_mem_quoteMarks hc)
      rw [scan_cons, step_of_isOpen hp, enter, if_neg hc]
      exact ih h.2 _ (.inl rfl)
  guarded p hp before after heq := by
    have hmem : ';' ∈ s.toList := by rw [heq]; simp
    exact absurd List.mem_cons_self (h _ hmem)

/-! ### Quotes -/

theorem step_inside_of_ne {c : Char} {l : List Char} (hl : d.escapes q = true → '\\' ∉ c :: l)
    (hc : c ≠ q) : d.step (.inside q) c = .inside q := by
  have hescape : ¬ (c = '\\' ∧ d.escapes q = true) := by
    rintro ⟨rfl, hescapes⟩
    exact hl hescapes List.mem_cons_self
  rw [step, if_neg hc, if_neg hescape]

/-- Within quotes, a text with doubled marks does not end them. -/
theorem scan_double {l : List Char} (hl : d.escapes q = true → '\\' ∉ l) :
    d.scan (.inside q) (double q l) = .inside q := by
  induction l with
  | nil => rfl
  | cons c l ih =>
    have htail : d.escapes q = true → '\\' ∉ l := fun h hmem => hl h (List.mem_cons_of_mem _ hmem)
    by_cases hc : c = q
    · simp [double, hc, step, ih htail]
    · simp [double, hc, step_inside_of_ne hl hc, ih htail]

/-- A semicolon in such a text is met within the quotes, as none is a mark itself. -/
theorem guarded_double (hq : q ≠ ';') {l : List Char} (hl : d.escapes q = true → '\\' ∉ l)
    {before after : List Char} (h : double q l ++ [q] = before ++ ';' :: after) :
    (d.scan (.inside q) before).isOutside = false := by
  induction l generalizing before with
  | nil =>
    cases before with
    | nil => exact absurd (List.cons.inj h).1 hq
    | cons x before => simp at h
  | cons c l ih =>
    have htail : d.escapes q = true → '\\' ∉ l := fun h hmem => hl h (List.mem_cons_of_mem _ hmem)
    by_cases hc : c = q
    · rw [double, if_pos hc] at h
      cases before with
      | nil => exact absurd (List.cons.inj h).1 hq
      | cons x before =>
        obtain ⟨hx, h⟩ := List.cons.inj h
        cases before with
        | nil => exact absurd (List.cons.inj h).1 hq
        | cons y before =>
          obtain ⟨hy, h⟩ := List.cons.inj h
          rw [← hx, ← hy, scan_cons, scan_cons, step, if_pos rfl, step, if_pos rfl]
          exact ih htail h
    · rw [double, if_neg hc] at h
      cases before with
      | nil => rfl
      | cons x before =>
        obtain ⟨hx, h⟩ := List.cons.inj h
        rw [← hx, scan_cons, step_inside_of_ne hl hc]
        exact ih htail h

theorem contained_quote (hq : q ∈ d.quoteMarks) (hs : d.escapes q = true → '\\' ∉ s.toList) :
    d.Contained (quote q s) where
  isOpen_scan p hp := by
    rw [toList_quote, scan_cons, step_of_isOpen hp, enter, if_pos hq, scan_append, scan_double hs]
    exact .inr ⟨q, hq, by simp [step]⟩
  guarded p hp before after h := by
    have hsemi : q ≠ ';' := fun h => semicolon_not_mem_quoteMarks (h ▸ hq)
    rw [toList_quote] at h
    cases before with
    | nil => exact absurd (List.cons.inj h).1 hsemi
    | cons x before =>
      obtain ⟨hx, h⟩ := List.cons.inj h
      rw [← hx, scan_cons, step_of_isOpen hp, enter, if_pos hq]
      exact guarded_double hsemi hs h

/-! ### Lists -/

variable {sep keyword : String} {items : List String}

theorem contained_joinWith (hsep : IsWord sep) (h : ∀ s ∈ items, d.Contained s) :
    d.Contained (joinWith sep items) := by
  induction items with
  | nil => exact contained_empty
  | cons s items ih =>
    rw [List.forall_mem_cons] at h
    cases items with
    | nil => exact h.1
    | cons s' items => exact (h.1.append hsep.contained).append (ih h.2)

theorem contained_join (h : ∀ s ∈ items, d.Contained s) : d.Contained (String.join items) := by
  induction items with
  | nil => exact contained_empty
  | cons s items ih =>
    rw [List.forall_mem_cons] at h
    rw [String.join_cons]
    exact h.1.append (ih h.2)

theorem contained_clause (hkeyword : IsWord keyword) (hsep : IsWord sep)
    (h : ∀ s ∈ items, d.Contained s) : d.Contained (clause keyword sep items) := by
  cases items with
  | nil => exact contained_empty
  | cons s items => exact hkeyword.contained.append (contained_joinWith hsep h)

end

/-! ## Parts of a statement -/

variable (d : Dialect)

theorem mark_mem_quoteMarks : d.mark ∈ d.quoteMarks := by cases d <;> decide

theorem apostrophe_mem_quoteMarks : '\'' ∈ d.quoteMarks := by cases d <;> decide

theorem eq_mysql_of_escapes {q : Char} (h : d.escapes q = true) : d = mysql := by
  simp only [escapes, Bool.and_eq_true, decide_eq_true_eq] at h
  exact h.1

/-- Quotes of a name know no escapes, so that any name may stand in them. -/
theorem contained_ident (name : String) : d.Contained (d.ident name) :=
  contained_quote d.mark_mem_quoteMarks fun h => by cases d <;> simp [escapes, mark] at h

theorem contained_column (c : ColumnRef) : d.Contained (d.column c) := by
  have hdot : IsWord "." := by decide
  exact ((d.contained_ident _).append hdot.contained).append (d.contained_ident _)

theorem contained_aggregate (a : Aggregate) : d.Contained (d.aggregate a) := by
  have hfunction : IsWord a.function.sql := by cases a.function <;> decide
  have hopen : IsWord "(" := by decide
  have hclose : IsWord ")" := by decide
  exact ((hfunction.contained.append hopen.contained).append (d.contained_column _)).append
    hclose.contained

/-- The text of a literal stands in quotes in which MySQL knows escapes. All else is digits, letters
and a few marks. -/
theorem contained_literal {v : Literal} (hv : d = mysql → v.IsPlain) :
    d.Contained (literal v) := by
  have hword : IsWord v.form.word := by
    have hmarks : ∀ c ∈ [';', '"', '\'', '\x60'], ¬ (c.isAlphanum = true ∨ c ∈ ['-', '.']) := by
      simp
    intro c h hc
    exact hmarks c hc (v.mem_word c h)
  have htext : (literal v).toList = v.form.word.toList ++ v.form.tail := v.text_form.symm
  unfold LiteralForm.tail at htext
  split at htext
  · have heq : literal v = v.form.word := by simpa [← String.toList_inj] using htext
    rw [heq]
    exact hword.contained
  · next body hbody =>
    have hquote : d.Contained (quote '\'' body) := by
      apply contained_quote d.apostrophe_mem_quoteMarks
      intro hescapes
      exact (hv (d.eq_mysql_of_escapes hescapes)).not_mem_of_body hbody
    split at htext
    · next hempty =>
      have heq : literal v = quote '\'' body := by simpa [← String.toList_inj, hempty] using htext
      rw [heq]
      exact hquote
    · have hblank : IsWord " " := by decide
      have heq : literal v = v.form.word ++ " " ++ quote '\'' body := by
        simpa [← String.toList_inj] using htext
      rw [heq]
      exact (hword.contained.append hblank.contained).append hquote

theorem contained_predicate {p : Predicate} (hp : d = mysql → p.value.IsPlain) :
    d.Contained (d.predicate p) := by
  have hop : IsWord p.op.sql := by cases p.op <;> decide
  have hblank : IsWord " " := by decide
  unfold predicate
  exact ((((d.contained_column _).append hblank.contained).append hop.contained).append
    hblank.contained).append (d.contained_literal hp)

theorem contained_qualified (space table : String) : d.Contained (d.qualified space table) := by
  have hdot : IsWord "." := by decide
  unfold qualified
  split
  · exact d.contained_ident table
  · exact ((d.contained_ident space).append hdot.contained).append (d.contained_ident table)

/-! ## Statements -/

section

variable {q : Query}

theorem contained_selectList : d.Contained (d.selectList q) := by
  have hstar : IsWord "*" := by decide
  unfold selectList
  split
  · exact hstar.contained
  · apply contained_joinWith (by decide)
    intro s hs
    rcases List.mem_append.1 hs with hs | hs
    · obtain ⟨c, -, rfl⟩ := List.mem_map.1 hs
      exact d.contained_column c
    · obtain ⟨a, -, rfl⟩ := List.mem_map.1 hs
      exact d.contained_aggregate a

theorem tableRef_of_hints_eq_nil (hhints : q.hints = []) (table : String) :
    d.tableRef q table = d.qualified q.space table := by
  rw [tableRef, Query.hintsFor, hhints]
  simp

theorem contained_joinClause (hhints : q.hints = []) (j : Join) :
    d.Contained (d.joinClause q j) := by
  have hjoin : IsWord " JOIN " := by decide
  have hon : IsWord " ON " := by decide
  have heq : IsWord " = " := by decide
  rw [joinClause, d.tableRef_of_hints_eq_nil hhints]
  have htable := hjoin.contained.append (d.contained_qualified q.space j.table)
  have hfrom := (htable.append hon.contained).append (d.contained_column j.edge.fromRef)
  exact (hfrom.append heq.contained).append (d.contained_column j.edge.toRef)

theorem contained_whereClause {predicates : List Predicate}
    (h : d = mysql → ∀ p ∈ predicates, p.value.IsPlain) :
    d.Contained (d.whereClause predicates) := by
  rw [whereClause_eq]
  apply contained_clause (by decide) (by decide)
  intro s hs
  obtain ⟨p, hp, rfl⟩ := List.mem_map.1 hs
  exact d.contained_predicate fun hd => h hd p hp

theorem contained_groupClause (columns : List ColumnRef) :
    d.Contained (d.groupClause columns) := by
  rw [groupClause_eq]
  apply contained_clause (by decide) (by decide)
  intro s hs
  obtain ⟨c, -, rfl⟩ := List.mem_map.1 hs
  exact d.contained_column c

theorem contained_clauses (hhints : q.hints = [])
    (h : d = mysql → ∀ p ∈ q.predicates, p.value.IsPlain) : d.Contained (d.clauses q) := by
  have hselect : d.Contained (d.selectList q) := d.contained_selectList
  have hfrom : IsWord " FROM " := by decide
  have hsource : d.Contained (d.tableRef q q.source) := by
    rw [d.tableRef_of_hints_eq_nil hhints]
    exact d.contained_qualified q.space q.source
  have hjoins : d.Contained (String.join (q.joins.map (d.joinClause q))) := by
    apply contained_join
    intro s hs
    obtain ⟨j, -, rfl⟩ := List.mem_map.1 hs
    exact d.contained_joinClause hhints j
  unfold clauses
  have htables := ((hselect.append hfrom.contained).append hsource).append hjoins
  exact (htables.append (d.contained_whereClause h)).append (d.contained_groupClause q.groupBy)

theorem render_of_hints_eq_nil (hhints : q.hints = []) :
    d.render q = "SELECT " ++ d.clauses q ++ ";" := by
  have hnone : d.hintComment q.hints = none := by rw [hhints]; rfl
  rw [render_of_none hnone]
  cases d <;> simp [opening, remainder, String.append_assoc]

/-- Behind a contained text the reader meets its only semicolon. -/
theorem Contained.isStatement {d : Dialect} {body : String} (h : d.Contained body) :
    d.IsStatement (body ++ ";") where
  closed := by
    have hopen := h.isOpen_scan .outside (.inl rfl)
    rw [String.toList_append, scan_append]
    show d.step (d.scan .outside body.toList) ';' = .outside
    rw [step_of_isOpen hopen, enter, if_neg semicolon_not_mem_quoteMarks]
  ends := ⟨body.toList, by simp⟩
  semicolon_iff before after heq := by
    rw [String.toList_append] at heq
    constructor
    · intro houtside
      rcases List.eq_nil_or_concat after with rfl | ⟨rest, x, rfl⟩
      · rfl
      · have hbody : body.toList = before ++ ';' :: rest := by
          have hsplit : body.toList ++ [';'] = (before ++ ';' :: rest) ++ [x] := by simpa using heq
          exact (List.append_inj' hsplit rfl).1
        have hguarded := h.guarded .outside (.inl rfl) before rest hbody
        rw [houtside] at hguarded
        contradiction
    · rintro rfl
      obtain ⟨rfl, -⟩ := List.append_inj' heq rfl
      exact isOutside_of_isOpen (h.isOpen_scan .outside (.inl rfl))

end

end Dialect

/-! ## Literals that are drawn -/

/-- There is no backslash in tokens and patterns. -/
theorem Generation.always_isPlain_literal (c : Column) (op : CompareOp) :
    (literal c op).Always Literal.IsPlain := by
  refine (always_text_literal c op).mono fun v hv => ?_
  cases v with
  | text s =>
    intro hback
    exact absurd (hv s rfl _ hback) (by decide)
  | integer n => trivial
  | decimal p => trivial
  | boolean b => trivial
  | date d => trivial
  | timestamp m => trivial
  | time t => trivial

namespace Dialect

/-- Whatever names and literals a query is made of, its statement is closed and ends with its only
semicolon. In MySQL the texts have to be plain, as all that are drawn are. -/
theorem isStatement_render :
    (∀ (d : Dialect) (q : Query), q.hints = [] →
      (d = mysql → ∀ p ∈ q.predicates, p.value.IsPlain) → d.IsStatement (d.render q)) ∧
    ∀ (c : Column) (op : CompareOp), (Generation.literal c op).Always Literal.IsPlain := by
  constructor
  · intro d q hhints hplain
    have hselect : IsWord "SELECT " := by decide
    rw [d.render_of_hints_eq_nil hhints]
    exact (hselect.contained.append (d.contained_clauses hhints hplain)).isStatement
  · exact Generation.always_isPlain_literal

/-- A query whose names have all sorts of marks, backslashes and semicolons, and a text. -/
def unruly (text : String) : Query where
  space := "\"; --"
  source := "'\x60;\"\\"
  joins := [⟨"/*;", ⟨"'\x60;\"\\", "\x60\x60;", "/*;", "\";\""⟩⟩]
  projection := [⟨"/*;", "';"⟩]
  aggregates := [⟨.count, ⟨"/*;", "\\\x60;"⟩⟩]
  predicates := [⟨⟨"/*;", "';"⟩, .eq, .text text⟩]
  groupBy := [⟨"/*;", "';"⟩]
  hints := []

/-- Elsewhere than in MySQL a text may end in a backslash. -/
theorem isStatement_render_unruly :
    mysql.IsStatement (mysql.render (unruly "it's;\"")) ∧
    postgres.IsStatement (postgres.render (unruly "';\\")) ∧
    10 < (mysql.render (unruly "it's;\"")).toList.count ';' := by
  refine ⟨isStatement_render.1 mysql _ rfl fun _ => by decide,
    isStatement_render.1 postgres _ rfl fun h => by contradiction, by decide +kernel⟩

/-- There it takes the meaning from the mark after it. -/
example : ¬ mysql.IsStatement (mysql.render (unruly "\\")) := fun h =>
  absurd h.closed (by decide +kernel)

end Dialect

end SqlWorkload
