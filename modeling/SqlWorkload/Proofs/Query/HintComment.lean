import Mathlib.Data.List.Infix
import SqlWorkload.Proofs.Generation.Queries
import SqlWorkload.Query.Dialect
/-!
# Hint comments

Where the hint comment of a statement begins and ends. The names in it are quoted as identifiers are
everywhere else, but a reader that looks for the end of a comment knows no quotes: the comment is
what it should be if, and only if, no name in it has a comment mark of its own.

    a statement is its comment, between an opening and a remainder that do without it
                                                                  (render_of_some)
    the comment ends where it should ↔ no name in it has a comment mark
                                                                  (sealed_iff_commented_names)
-/

namespace SqlWorkload

open Text

/-! ## Pairs of characters -/

namespace Text

section

variable {x y : Char} {s t : List Char}

theorem pair_infix_cons {c : Char} :
    [x, y] <:+: c :: s ↔ (c = x ∧ s.head? = some y) ∨ [x, y] <:+: s := by
  rw [List.infix_cons_iff]
  refine or_congr_left ?_
  cases s with
  | nil => simp
  | cons d s => simp [List.cons_prefix_cons, eq_comm]

theorem pair_infix_append_of_not_mem (h : x ∉ s) : [x, y] <:+: s ++ t ↔ [x, y] <:+: t := by
  induction s with
  | nil => rfl
  | cons c s ih =>
    rw [List.mem_cons, not_or] at h
    rw [List.cons_append, pair_infix_cons, ih h.2]
    exact or_iff_right fun hc => h.1 hc.1.symm

/-- No pair crosses a character that is not in it. -/
theorem pair_infix_append_cons {c : Char} (hx : c ≠ x) (hy : c ≠ y) :
    [x, y] <:+: s ++ c :: t ↔ [x, y] <:+: s ∨ [x, y] <:+: t := by
  induction s with
  | nil =>
    rw [List.nil_append, pair_infix_cons]
    simp [hx]
  | cons d s ih =>
    have hhead : (s ++ c :: t).head? = some y ↔ s.head? = some y := by
      cases s with
      | nil => simp [hy]
      | cons e s => simp
    rw [List.cons_append, pair_infix_cons, pair_infix_cons, hhead, ih, or_assoc]

/-- To double another character makes no pair and breaks none. -/
theorem pair_infix_double {q : Char} (hx : q ≠ x) (hy : q ≠ y) :
    [x, y] <:+: double q s ↔ [x, y] <:+: s := by
  induction s with
  | nil => rfl
  | cons c s ih =>
    have hhead : (double q s).head? = s.head? := by
      cases s with
      | nil => rfl
      | cons d s => by_cases hd : d = q <;> simp [double, hd]
    by_cases hc : c = q
    · subst hc
      rw [double, if_pos rfl, pair_infix_cons, pair_infix_cons, pair_infix_cons, ih]
      simp [hx]
    · rw [double, if_neg hc, pair_infix_cons, pair_infix_cons, hhead, ih]

/-- Nor does one cross a separator without either character. -/
theorem pair_infix_joinWith {sep : String} {c : Char} {more : List Char}
    (hsep : sep.toList = c :: more) (hx : x ∉ sep.toList) (hy : y ∉ sep.toList)
    {items : List String} :
    [x, y] <:+: (joinWith sep items).toList ↔ ∃ s ∈ items, [x, y] <:+: s.toList := by
  rw [hsep, List.mem_cons, not_or] at hx hy
  induction items with
  | nil => simp [joinWith]
  | cons s items ih =>
    cases items with
    | nil => simp [joinWith]
    | cons s' items =>
      rw [joinWith, String.toList_append, String.toList_append, hsep, List.append_assoc,
        List.cons_append, pair_infix_append_cons (Ne.symm hx.1) (Ne.symm hy.1),
        pair_infix_append_of_not_mem hx.2, ih]
      · simp
      · simp

end

end Text

/-! ## Hint items -/

namespace Hint

/-- The tables and the index that the hint names, in the order in which they are written. -/
def names : Hint → List String
  | useIndex table index => [table, index]
  | noIndex table => [table]
  | joinMethod left right _ => [left, right]

end Hint

namespace Dialect

/-- The method that the hint comment names for a hint, if it says anything. -/
def hintMethod : Dialect → Hint → Option String
  | ansi, _ => none
  | postgres, .useIndex _ _ => some "IndexScan"
  | postgres, .noIndex _ => some "SeqScan"
  | postgres, .joinMethod _ _ .hash => some "HashJoin"
  | postgres, .joinMethod _ _ .nestedLoop => some "NestLoop"
  | postgres, .joinMethod _ _ .merge => some "MergeJoin"
  | mysql, .joinMethod _ _ .hash => some "HASH_JOIN"
  | mysql, .joinMethod _ _ _ => some "NO_HASH_JOIN"
  | mysql, _ => none

def nameSeparator : Dialect → String
  | mysql => ", "
  | ansi | postgres => " "

/-- A method and the quoted names of the hint. -/
def callText (d : Dialect) (method : String) (names : List String) : String :=
  method ++ "(" ++ joinWith d.nameSeparator (names.map d.ident) ++ ")"

/-- The method for a hint with the names of the hint, if there is a method. -/
def hintCall (d : Dialect) (h : Hint) : Option String :=
  (d.hintMethod h).map fun method => d.callText method h.names

theorem hintItem_eq (d : Dialect) : d.hintItem = d.hintCall := by
  funext h
  cases d with
  | ansi => rfl
  | postgres =>
    cases h with
    | useIndex table index =>
      simp [hintItem, hintCall, hintMethod, callText, Hint.names, joinWith, nameSeparator,
        ← String.toList_inj]
    | noIndex table =>
      simp [hintItem, hintCall, hintMethod, callText, Hint.names, joinWith]
    | joinMethod left right strategy =>
      cases strategy <;>
        simp [hintItem, hintCall, hintMethod, callText, Hint.names, joinWith, nameSeparator,
          ← String.toList_inj]
  | mysql =>
    cases h with
    | useIndex table index => rfl
    | noIndex table => rfl
    | joinMethod left right strategy =>
      cases strategy <;>
        simp [hintItem, hintCall, hintMethod, callText, Hint.names, joinWith, nameSeparator,
          ← String.toList_inj]

/-- Nothing in a method is taken for a parenthesis or for part of a comment mark. -/
theorem not_mem_of_mem_hintMethod {d : Dialect} {h : Hint} {method : String}
    (hmethod : d.hintMethod h = some method) : ∀ c ∈ method.toList, c ∉ ['(', '*', '/'] := by
  unfold hintMethod at hmethod
  split at hmethod <;> cases hmethod <;> simp

/-- The names that get into the hint comment. -/
def commentedNames (d : Dialect) (hints : List Hint) : List String :=
  (hints.filter fun h => (d.hintItem h).isSome).flatMap Hint.names

/-- What the items of the comment have of their names, the comment has of all its names. -/
theorem exists_item_iff {d : Dialect} {hints : List Hint} {P Q : String → Prop}
    (hitems : ∀ {h item}, d.hintItem h = some item → (P item ↔ ∃ name ∈ h.names, Q name)) :
    (∃ item ∈ hints.filterMap d.hintItem, P item) ↔
      ∃ name ∈ d.commentedNames hints, Q name := by
  simp only [List.mem_filterMap, commentedNames, List.mem_flatMap, List.mem_filter]
  constructor
  · rintro ⟨item, ⟨h, hh, hitem⟩, hp⟩
    obtain ⟨name, hname, hq⟩ := (hitems hitem).1 hp
    exact ⟨name, ⟨h, ⟨hh, Option.isSome_of_eq_some hitem⟩, hname⟩, hq⟩
  · rintro ⟨name, ⟨h, ⟨hh, hsome⟩, hname⟩, hq⟩
    obtain ⟨item, hitem⟩ := Option.isSome_iff_exists.1 hsome
    exact ⟨item, ⟨h, hh, hitem⟩, (hitems hitem).2 ⟨name, hname, hq⟩⟩

/-! ## Statements around their comments -/

/-- What a statement says after its first keyword and the hint comment. -/
def clauses (d : Dialect) (q : Query) : String :=
  d.selectList q ++ " FROM " ++ d.tableRef q q.source ++
    String.join (q.joins.map (d.joinClause q)) ++ d.whereClause q.predicates ++
    d.groupClause q.groupBy

/-- The text in front of a hint comment. -/
def opening : Dialect → String
  | mysql => "SELECT "
  | ansi | postgres => ""

/-- The text after a hint comment and a blank. -/
def remainder (d : Dialect) (q : Query) : String :=
  (match d with
    | mysql => ""
    | ansi | postgres => "SELECT ") ++ d.clauses q ++ ";"

theorem render_of_none {d : Dialect} {q : Query} (h : d.hintComment q.hints = none) :
    d.render q = d.opening ++ d.remainder q := by
  cases d <;>
    simp [render, select, h, opening, remainder, clauses, String.append_assoc]

theorem render_of_some {d : Dialect} {q : Query} {comment : String}
    (h : d.hintComment q.hints = some comment) :
    d.render q = d.opening ++ comment ++ " " ++ d.remainder q := by
  cases d with
  | ansi => simp at h
  | postgres =>
    simp [render, select, h, opening, remainder, clauses, ← String.toList_inj]
  | mysql => simp [render, select, h, opening, remainder, clauses, ← String.toList_inj]

/-- The query without the hints that its comment is made of. -/
def uncommented (d : Dialect) (q : Query) : Query :=
  { q with hints := q.hints.filter fun h => (d.hintItem h).isNone }

theorem hintComment_uncommented (d : Dialect) (q : Query) :
    d.hintComment (d.uncommented q).hints = none := by
  have hnil : (d.uncommented q).hints.filterMap d.hintItem = [] := by
    rw [List.filterMap_eq_nil_iff]
    intro h hh
    exact Option.isNone_iff_eq_none.1 (List.mem_filter.1 hh).2
  rw [hintComment, hnil]

/-- Hints after a table are not hints of the comment. -/
theorem tableRef_uncommented (d : Dialect) (q : Query) (table : String) :
    d.tableRef (d.uncommented q) table = d.tableRef q table := by
  by_cases hd : d = mysql
  · subst hd
    have hfor : (mysql.uncommented q).hintsFor table = q.hintsFor table := by
      simp only [Query.hintsFor, uncommented, List.filter_filter]
      refine List.filter_congr fun h _ => ?_
      cases h <;> simp [Hint.isFor, hintItem]
    rw [tableRef, tableRef, hfor]
    rfl
  · rw [tableRef, tableRef, if_neg hd, if_neg hd]
    rfl

theorem clauses_uncommented (d : Dialect) (q : Query) :
    d.clauses (d.uncommented q) = d.clauses q := by
  have hjoin : d.joinClause (d.uncommented q) = d.joinClause q := by
    funext j
    rw [joinClause, joinClause, tableRef_uncommented]
  rw [clauses, clauses, tableRef_uncommented, hjoin]
  rfl

theorem render_uncommented (d : Dialect) (q : Query) :
    d.render (d.uncommented q) = d.opening ++ d.remainder q := by
  rw [render_of_none (hintComment_uncommented d q)]
  simp only [remainder, clauses_uncommented]

/-! ## Comment marks -/

section

variable {x y : Char} (hx : x ∈ ['*', '/']) (hy : y ∈ ['*', '/'])

include hx hy

theorem pair_infix_ident (d : Dialect) (name : String) :
    [x, y] <:+: (d.ident name).toList ↔ [x, y] <:+: name.toList := by
  have hmark : ∀ z ∈ ['*', '/'], d.mark ≠ z := by cases d <;> simp [mark]
  rw [toList_ident, pair_infix_cons, pair_infix_append_cons (hmark x hx) (hmark y hy),
    pair_infix_double (hmark x hx) (hmark y hy)]
  simp [hmark x hx]

theorem pair_infix_callText (d : Dialect) {method : String} (names : List String)
    (hmethod : ∀ c ∈ method.toList, c ∉ ['*', '/']) :
    [x, y] <:+: (d.callText method names).toList ↔ ∃ name ∈ names, [x, y] <:+: name.toList := by
  have hne {c z : Char} (hc : c ∉ ['*', '/']) (hz : z ∈ ['*', '/']) : c ≠ z := fun h => hc (h ▸ hz)
  have hfront : x ∉ method.toList ++ ['('] := by
    simp only [List.mem_append, List.mem_singleton, not_or]
    exact ⟨fun h => hmethod x h hx, (hne (by decide) hx).symm⟩
  have hsep : ∀ z ∈ ['*', '/'], z ∉ d.nameSeparator.toList := by
    cases d <;> simp [nameSeparator]
  obtain ⟨c, more, hcons⟩ : ∃ c more, d.nameSeparator.toList = c :: more := by
    cases d <;> exact ⟨_, _, rfl⟩
  have htext : (d.callText method names).toList =
      (method.toList ++ ['(']) ++ (joinWith d.nameSeparator (names.map d.ident)).toList ++
        [')'] := by
    simp [callText]
  rw [htext, pair_infix_append_cons (hne (by decide) hx) (hne (by decide) hy),
    pair_infix_append_of_not_mem hfront, pair_infix_joinWith hcons (hsep x hx) (hsep y hy)]
  simp only [List.mem_map, exists_exists_and_eq_and, pair_infix_ident hx hy, List.infix_nil,
    reduceCtorEq, or_false]

theorem pair_infix_hintItem {d : Dialect} {h : Hint} {item : String}
    (hitem : d.hintItem h = some item) :
    [x, y] <:+: item.toList ↔ ∃ name ∈ h.names, [x, y] <:+: name.toList := by
  rw [hintItem_eq, hintCall, Option.map_eq_some_iff] at hitem
  obtain ⟨method, hmethod, rfl⟩ := hitem
  exact d.pair_infix_callText hx hy h.names fun c hc hmem =>
    not_mem_of_mem_hintMethod hmethod c hc (List.mem_cons_of_mem _ hmem)

/-- Every name of a commented hint is in the comment, with its characters next to each other. -/
theorem pair_infix_items (d : Dialect) (hints : List Hint) :
    [x, y] <:+: (joinWith " " (hints.filterMap d.hintItem)).toList ↔
      ∃ name ∈ d.commentedNames hints, [x, y] <:+: name.toList := by
  have hblank : ∀ z ∈ ['*', '/'], z ∉ " ".toList := by simp
  rw [pair_infix_joinWith (rfl : " ".toList = ' ' :: []) (hblank x hx) (hblank y hy)]
  exact exists_item_iff fun hitem => pair_infix_hintItem hx hy hitem

end

/-- A comment between `before` and a blank is taken for what it is: the first closing mark of the
text is its own, and no other comment is opened in it. -/
structure Sealed (before comment : String) : Prop where
  closes : ¬ ['*', '/'] <:+: (before ++ comment).toList.dropLast
  opens : ¬ ['/', '*'] <:+: comment.toList.tail

instance (before comment : String) : Decidable (Sealed before comment) :=
  decidable_of_iff (¬ ['*', '/'] <:+: (before ++ comment).toList.dropLast ∧
    ¬ ['/', '*'] <:+: comment.toList.tail) ⟨fun h => ⟨h.1, h.2⟩, fun h => ⟨h.closes, h.opens⟩⟩

theorem eq_of_hintComment {d : Dialect} {hints : List Hint} {comment : String}
    (h : d.hintComment hints = some comment) :
    comment = "/*+ " ++ joinWith " " (hints.filterMap d.hintItem) ++ " */" := by
  unfold hintComment at h
  split at h
  · contradiction
  · exact (Option.some.inj h).symm

theorem sealed_iff_items (d : Dialect) (items : String) :
    Sealed d.opening ("/*+ " ++ items ++ " */") ↔
      ¬ ['*', '/'] <:+: items.toList ∧ ¬ ['/', '*'] <:+: items.toList := by
  have hcloses : ['*', '/'] <:+: (d.opening ++ ("/*+ " ++ items ++ " */")).toList.dropLast ↔
      ['*', '/'] <:+: items.toList := by
    have hsplit : (d.opening ++ ("/*+ " ++ items ++ " */")).toList =
        (d.opening.toList ++ "/*+".toList ++ ' ' :: (items.toList ++ ' ' :: ['*'])) ++ ['/'] := by
      simp
    have hfront : ¬ ['*', '/'] <:+: d.opening.toList ++ "/*+".toList := by cases d <;> decide
    have hback : ¬ ['*', '/'] <:+: ['*'] := by decide
    rw [hsplit, List.dropLast_concat, pair_infix_append_cons (c := ' ') (by decide) (by decide),
      pair_infix_append_cons (c := ' ') (by decide) (by decide), or_iff_right hfront,
      or_iff_left hback]
  have hopens : ['/', '*'] <:+: ("/*+ " ++ items ++ " */").toList.tail ↔
      ['/', '*'] <:+: items.toList := by
    have hsplit : ("/*+ " ++ items ++ " */").toList.tail =
        ['*', '+'] ++ ' ' :: (items.toList ++ ' ' :: ['*', '/']) := by
      simp
    have hfront : ¬ ['/', '*'] <:+: ['*', '+'] := by decide
    have hback : ¬ ['/', '*'] <:+: ['*', '/'] := by decide
    rw [hsplit, pair_infix_append_cons (c := ' ') (by decide) (by decide),
      pair_infix_append_cons (c := ' ') (by decide) (by decide), or_iff_right hfront,
      or_iff_left hback]
  constructor
  · rintro ⟨h, h'⟩
    exact ⟨mt hcloses.2 h, mt hopens.2 h'⟩
  · rintro ⟨h, h'⟩
    exact ⟨mt hcloses.1 h, mt hopens.1 h'⟩

/-- A statement with a hint comment is the one without it, but for the comment and a blank. The
comment ends where it should, and opens no other, just if no name in it has a comment mark: the
quotes around the names are of no use there. -/
theorem sealed_iff_commented_names {d : Dialect} {q : Query} {comment : String}
    (h : d.hintComment q.hints = some comment) :
    d.render q = d.opening ++ comment ++ " " ++ d.remainder q ∧
    d.render (d.uncommented q) = d.opening ++ d.remainder q ∧
    (Sealed d.opening comment ↔ ∀ name ∈ d.commentedNames q.hints,
      ¬ ['*', '/'] <:+: name.toList ∧ ¬ ['/', '*'] <:+: name.toList) := by
  refine ⟨render_of_some h, render_uncommented d q, ?_⟩
  rw [eq_of_hintComment h, sealed_iff_items, pair_infix_items (by decide) (by decide),
    pair_infix_items (by decide) (by decide)]
  simp only [not_exists, not_and]
  exact ⟨fun ⟨hc, ho⟩ name hname => ⟨hc name hname, ho name hname⟩,
    fun hall => ⟨fun name hname => (hall name hname).1, fun name hname => (hall name hname).2⟩⟩

/-- Two tables joined, with a hint that is not commented and one that is. -/
def crossed : Query where
  space := "public"
  source := "a"
  joins := [⟨"b/*", ⟨"a", "b", "b/*", "id"⟩⟩]
  projection := []
  aggregates := []
  predicates := []
  groupBy := []
  hints := [.noIndex "a", .joinMethod "a" "b/*" .merge]

theorem sealed_iff_commented_names_crossed :
    ∃ comment, mysql.hintComment crossed.hints = some comment ∧
      mysql.render crossed = "SELECT " ++ comment ++ " " ++ mysql.remainder crossed ∧
      mysql.render (mysql.uncommented crossed) = "SELECT " ++ mysql.remainder crossed ∧
      ¬ Sealed "SELECT " comment := by
  have h : mysql.hintComment crossed.hints = some "/*+ NO_HASH_JOIN(`a`, `b/*`) */" := by
    decide +kernel
  obtain ⟨hrender, huncommented, hsealed⟩ := sealed_iff_commented_names h
  have hnames : ¬ ∀ name ∈ mysql.commentedNames crossed.hints,
      ¬ ['*', '/'] <:+: name.toList ∧ ¬ ['/', '*'] <:+: name.toList := by decide +kernel
  exact ⟨_, h, hrender, huncommented, mt hsealed.1 hnames⟩

/-- A table whose name has the mark that ends a comment. -/
def starred : Schema :=
  .analyzed "starred"
    [{ name := "a*/b", space := "public", columns := [{ name := "id", dataType := "integer" }] }]
    (.newYear 2024)

open Generator in
/-- A name of the schema can end the comment of a generated query. -/
theorem not_sealed_starred :
    ∃ p g, start starred (.build starred) p = .ok g ∧ ∃ q ∈ g.queries, ∃ comment,
      postgres.hintComment q.hints = some comment ∧ ¬ Sealed postgres.opening comment := by
  let p : Parameters :=
    { numQueries := 1, maxPredicates := 0, maxAggregates := 0, noIndexHintProbability := .one }
  have hg : start starred (.build starred) p = .ok ⟨starred, .build starred, p, .ofSeed 1, 0⟩ :=
    start_eq_ok_iff.2
      ⟨p, Parameters.checked_eq_ok_iff.2 ⟨by decide +kernel, by decide +kernel⟩, rfl⟩
  have hq : ∃ q ∈ queries ⟨starred, .build starred, p, .ofSeed 1, 0⟩,
      q.hints = [.noIndex "a*/b"] := by decide +kernel
  obtain ⟨q, hq, hhints⟩ := hq
  refine ⟨p, _, hg, q, hq, "/*+ SeqScan(\"a*/b\") */", ?_, by decide +kernel⟩
  rw [hhints]
  decide +kernel

end Dialect

end SqlWorkload
