import SqlWorkload.Text.Quoted
/-!
# Reading quoted text

Two ways to get a text back from its quotes. A reader goes through what is written from the front
and finds the end by itself: a mark with its like behind it is a mark of the text, and a mark that
stands alone ends the quotes. Who knows where the quotes end takes them off and leaves one of each
two marks in between.

    readQuoted q l = some (s, t) ↔ l = (quote q s).toList ++ t, and no mark is in front of t
                                                                  (readQuoted_eq_some_iff)
    unquote? q (quote q s) = some s                               (unquote?_quote)
-/

namespace SqlWorkload.Text

/-! ## Algorithm -/

/-- The text up to the mark that ends the quotes, and what is behind that. -/
def readBody (q : Char) : List Char → Option (List Char × List Char)
  | [] => none
  | [c] => if c = q then some ([], []) else none
  | c :: d :: rest =>
    if c = q then
      if d = q then (readBody q rest).map fun (s, t) => (q :: s, t) else some ([], d :: rest)
    else (readBody q (d :: rest)).map fun (s, t) => (c :: s, t)

/-- The text in the quotes at the front, and what is behind them. -/
def readQuoted (q : Char) : List Char → Option (String × List Char)
  | [] => none
  | c :: rest =>
    if c = q then (readBody q rest).map fun (s, t) => (String.ofList s, t) else none

/-- The text with one mark for each two that stand next to each other, taken from the front. -/
def halve (q : Char) : List Char → List Char
  | c :: d :: rest => if c = q ∧ d = q then q :: halve q rest else c :: halve q (d :: rest)
  | s => s

/-- The text with its first and its last character taken off, if these are marks. -/
def strip? (q : Char) : List Char → Option (List Char)
  | [] => none
  | c :: rest => if c = q ∧ rest.getLast? = some q then some rest.dropLast else none

def unquote? (q : Char) (s : String) : Option String :=
  (strip? q s.toList).map fun body => String.ofList (halve q body)

/-! ## Readers -/

section

variable {q : Char} {l s t : List Char}

theorem readBody_mark (ht : t.head? ≠ some q) : readBody q (q :: t) = some ([], t) := by
  cases t with
  | nil => simp [readBody]
  | cons d t =>
    have hd : d ≠ q := by simpa using ht
    simp [readBody, hd]

theorem readBody_mark_mark :
    readBody q (q :: q :: l) = (readBody q l).map fun (s, t) => (q :: s, t) := by
  simp [readBody]

theorem readBody_cons_of_ne {c : Char} (hc : c ≠ q) :
    readBody q (c :: l) = (readBody q l).map fun (s, t) => (c :: s, t) := by
  cases l with
  | nil => simp [readBody, hc]
  | cons d l => simp [readBody, hc]

/-- Doubled marks are passed over, and the next one ends the quotes. -/
theorem readBody_double (ht : t.head? ≠ some q) :
    readBody q (double q s ++ q :: t) = some (s, t) := by
  induction s with
  | nil => exact readBody_mark ht
  | cons c s ih =>
    by_cases hc : c = q
    · rw [double, if_pos hc, List.cons_append, List.cons_append, readBody_mark_mark, ih, hc]
      rfl
    · rw [double, if_neg hc, List.cons_append, readBody_cons_of_ne hc, ih]
      rfl

/-- What is read has been written, and the reader has stopped as late as it could. -/
theorem eq_double_of_readBody (h : readBody q l = some (s, t)) :
    l = double q s ++ q :: t ∧ t.head? ≠ some q := by
  induction l using readBody.induct q generalizing s with
  | case1 => simp [readBody] at h
  | case2 =>
    obtain ⟨rfl, rfl⟩ : [] = s ∧ [] = t := by simpa [readBody] using h
    exact ⟨rfl, by simp⟩
  | case3 c hc => simp [readBody, hc] at h
  | case4 rest ih =>
    rw [readBody_mark_mark, Option.map_eq_some_iff] at h
    obtain ⟨⟨s', t'⟩, hrest, heq⟩ := h
    obtain ⟨rfl, rfl⟩ := Prod.mk.inj heq
    obtain ⟨rfl, ht⟩ := ih hrest
    exact ⟨by simp [double], ht⟩
  | case5 d rest hd =>
    obtain ⟨rfl, rfl⟩ : [] = s ∧ d :: rest = t := by simpa [readBody, hd] using h
    exact ⟨rfl, by simpa using hd⟩
  | case6 c d rest hc ih =>
    rw [readBody_cons_of_ne hc, Option.map_eq_some_iff] at h
    obtain ⟨⟨s', t'⟩, hrest, heq⟩ := h
    obtain ⟨rfl, rfl⟩ := Prod.mk.inj heq
    obtain ⟨hrest, ht⟩ := ih hrest
    exact ⟨by rw [hrest, double, if_neg hc, List.cons_append], ht⟩

theorem readBody_eq_some_iff :
    readBody q l = some (s, t) ↔ l = double q s ++ q :: t ∧ t.head? ≠ some q := by
  constructor
  · exact eq_double_of_readBody
  · rintro ⟨rfl, ht⟩
    exact readBody_double ht

end

/-- The reader takes texts in quotes that nothing is written right behind that would be taken for
part of them, and no others. -/
theorem readQuoted_eq_some_iff {q : Char} {l t : List Char} {s : String} :
    readQuoted q l = some (s, t) ↔ l = (quote q s).toList ++ t ∧ t.head? ≠ some q := by
  rw [toList_quote]
  cases l with
  | nil => simp [readQuoted]
  | cons c rest =>
    by_cases hc : c = q
    · rw [readQuoted, if_pos hc, Option.map_eq_some_iff]
      constructor
      · rintro ⟨⟨s', t'⟩, hbody, heq⟩
        obtain ⟨rfl, rfl⟩ := Prod.mk.inj heq
        obtain ⟨rfl, ht⟩ := readBody_eq_some_iff.1 hbody
        exact ⟨by simp [hc], ht⟩
      · rintro ⟨hl, ht⟩
        have hrest : rest = double q s.toList ++ q :: t := by simpa [hc] using hl
        exact ⟨(s.toList, t), readBody_eq_some_iff.2 ⟨hrest, ht⟩, by simp⟩
    · rw [readQuoted, if_neg hc]
      constructor
      · intro h
        contradiction
      · rintro ⟨hl, -⟩
        exact absurd (List.cons.inj hl).1 hc

/-! ## Quotes taken off -/

/-- A mark that is written once takes no part in halving. -/
theorem halve_cons_of_ne {q c : Char} (hc : c ≠ q) (l : List Char) :
    halve q (c :: l) = c :: halve q l := by
  cases l with
  | nil => rfl
  | cons d l => rw [halve, if_neg fun h => hc h.1]

theorem halve_double (q : Char) (s : List Char) : halve q (double q s) = s := by
  induction s with
  | nil => rfl
  | cons c s ih =>
    by_cases hc : c = q
    · rw [double, if_pos hc, halve, if_pos ⟨rfl, rfl⟩, ih, hc]
    · rw [double, if_neg hc, halve_cons_of_ne hc, ih]

theorem strip?_quote (q : Char) (s : String) :
    strip? q (quote q s).toList = some (double q s.toList) := by
  simp [strip?]

theorem unquote?_quote (q : Char) (s : String) : unquote? q (quote q s) = some s := by
  rw [unquote?, strip?_quote, Option.map_some, halve_double, String.ofList_toList]

end SqlWorkload.Text
