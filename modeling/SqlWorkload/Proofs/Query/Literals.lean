import SqlWorkload.Proofs.Text.Delimited
import SqlWorkload.Query.Dialect
/-!
# Literals as they are written

A literal is written as a word, or as a keyword and a text in quotes. The kind of literal can be
told from that, and its value, but for fractions of a second and of a hundredth.

    literals are delimited, if no quoted text follows             (Literal.delimits)
    the same form → the same literal, or decimals that round alike
                                                                  (Literal.alike_of_form)
-/

namespace SqlWorkload

open Text

/-! ## Definitions -/

/-- A word, a text in quotes, or a word with a text in quotes after it. -/
@[ext]
structure LiteralForm where
  word : String
  body : Option String

namespace LiteralForm

/-- The quoted text, with a blank in front of it if there is a word. -/
def tail (f : LiteralForm) : List Char :=
  match f.body with
  | none => []
  | some body => (if f.word = "" then [] else [' ']) ++ (quote '\'' body).toList

def text (f : LiteralForm) : List Char := f.word.toList ++ f.tail

end LiteralForm

namespace Literal

def form : Literal → LiteralForm
  | integer n => ⟨String.ofList (intText n), none⟩
  | decimal p => ⟨p.fixedText, none⟩
  | text s => ⟨"", some s⟩
  | boolean b => ⟨if b then "TRUE" else "FALSE", none⟩
  | date d => ⟨"DATE", some (String.ofList d.text)⟩
  | timestamp m => ⟨"TIMESTAMP", some (String.ofList (m.date.text ++ ' ' :: m.time.clockText))⟩
  | time t => ⟨"TIME", some (String.ofList t.clockText)⟩

/-- There is no fraction of a second in the literal. -/
def IsWhole : Literal → Prop
  | timestamp m => m.time.nanosecond = 0
  | time t => t.nanosecond = 0
  | _ => True

instance : DecidablePred IsWhole
  | timestamp m => inferInstanceAs (Decidable (m.time.nanosecond = 0))
  | time t => inferInstanceAs (Decidable (t.nanosecond = 0))
  | integer _ | decimal _ | text _ | boolean _ | date _ => inferInstanceAs (Decidable True)

/-- The same literal, or decimals that are the same with two digits after the point. -/
inductive Alike : Literal → Literal → Prop
  | refl (l : Literal) : Alike l l
  | decimal {p r : Binary64} (h : p.fixedText = r.fixedText) : Alike (decimal p) (decimal r)

end Literal

/-- What may follow a part of a statement: its end, or a blank and one more character that is none
of those excluded. -/
def Continues (but s : List Char) : Prop :=
  (∃ rest, s = ';' :: rest) ∨ ∃ c rest, s = ' ' :: c :: rest ∧ c ∉ but

theorem Continues.mono {but but' s : List Char} (h : but' ⊆ but) (hs : Continues but s) :
    Continues but' s :=
  hs.imp_right fun ⟨c, rest, hs, hc⟩ => ⟨c, rest, hs, fun hc' => hc (h hc')⟩

theorem Continues.of_mem_head {but s : List Char} (hs : Continues but s) :
    ∀ c ∈ s.head?, c = ';' ∨ c = ' ' := by
  obtain ⟨rest, rfl⟩ | ⟨c, rest, rfl, -⟩ := hs
  · simp
  · simp

theorem Continues.head?_ne {but s : List Char} (hs : Continues but s) {c : Char}
    (hblank : c ≠ ' ') (hend : c ≠ ';') : s.head? ≠ some c := by
  intro h
  rcases hs.of_mem_head c h with rfl | rfl
  · exact hend rfl
  · exact hblank rfl

/-! ## Numbers -/

namespace Text

theorem toDigits_injective : Function.Injective (Nat.toDigits 10) :=
  Function.LeftInverse.injective (g := (Nat.ofDigitChars 10 · 0)) fun _ =>
    Nat.ofDigitChars_toDigits (by decide) (by decide)

theorem zeroPad_injective (width : Nat) : Function.Injective (zeroPad width) :=
  Function.LeftInverse.injective (digitsValue_zeroPad width)

theorem isDigit_or_of_mem_intText {n : Int} {c : Char} (h : c ∈ intText n) :
    c.isDigit = true ∨ c = '-' := by
  unfold intText at h
  split at h
  · rcases List.mem_cons.1 h with rfl | h
    · exact .inr rfl
    · exact .inl (Nat.isDigit_of_mem_toDigits (by decide) (by decide) h)
  · exact .inl (Nat.isDigit_of_mem_toDigits (by decide) (by decide) h)

theorem hyphen_cons_ne_toDigits {n : Nat} {s : List Char} : '-' :: s ≠ Nat.toDigits 10 n := by
  intro h
  have hc : '-' ∈ Nat.toDigits 10 n := h ▸ List.mem_cons_self
  exact absurd (Nat.isDigit_of_mem_toDigits (by decide) (by decide) hc) (by decide)

theorem intText_injective : Function.Injective intText := by
  intro m n h
  unfold intText at h
  split at h <;> split at h
  · have := toDigits_injective (List.cons.inj h).2
    omega
  · exact absurd h hyphen_cons_ne_toDigits
  · exact absurd h.symm hyphen_cons_ne_toDigits
  · have := toDigits_injective h
    omega

/-- The digits of a number end where there is no further digit. -/
theorem delimits_zeroPad (width : Nat) :
    Delimits (zeroPad width) Eq fun s => ∀ c ∈ s.head?, ¬ c.isDigit = true :=
  (delimits_run fun _ _ => isDigit_of_mem_zeroPad).imp (fun _ _ h => zeroPad_injective width h)
    fun _ h => h

theorem isDigit_head_zeroPad {width n : Nat} {s : List Char} :
    ∀ c ∈ (zeroPad width n ++ s).head?, c.isDigit = true := by
  have hne : zeroPad width n ≠ [] := List.append_ne_nil_of_right_ne_nil _ Nat.toDigits_ne_nil
  obtain ⟨d, digits, h⟩ := List.exists_cons_of_ne_nil hne
  intro c hc
  rw [h, List.cons_append, List.head?_cons, Option.mem_some] at hc
  subst hc
  exact isDigit_of_mem_zeroPad (h ▸ List.mem_cons_self)

end Text

namespace Binary64

theorem mem_fixedText {p : Binary64} {c : Char} (h : c ∈ p.fixedText.toList) :
    c.isDigit = true ∨ c ∈ ['-', '.', 'N', 'a', 'i', 'n', 'f'] := by
  have hmagnitude (h : c ∈ if p.isFinite then
        Nat.toDigits 10 (p.hundredths / 100) ++ '.' :: zeroPad 2 (p.hundredths % 100)
      else "inf".toList) :
      c.isDigit = true ∨ c ∈ ['-', '.', 'N', 'a', 'i', 'n', 'f'] := by
    split at h
    · rcases List.mem_append.1 h with h | h
      · exact .inl (Nat.isDigit_of_mem_toDigits (by decide) (by decide) h)
      · rcases List.mem_cons.1 h with rfl | h
        · exact .inr (by decide)
        · exact .inl (isDigit_of_mem_zeroPad h)
    · exact .inr ((by decide : "inf".toList ⊆ ['-', '.', 'N', 'a', 'i', 'n', 'f']) h)
  unfold fixedText at h
  split at h
  · exact .inr ((by decide : "NaN".toList ⊆ ['-', '.', 'N', 'a', 'i', 'n', 'f']) h)
  · rw [String.toList_ofList] at h
    split at h
    · rcases List.mem_cons.1 h with rfl | h
      · exact .inr (by decide)
      · exact hmagnitude h
    · exact hmagnitude h

/-- A decimal is not written as an integer is. -/
theorem exists_mem_fixedText (p : Binary64) :
    ∃ c ∈ p.fixedText.toList, c.isDigit = false ∧ c ≠ '-' := by
  unfold fixedText
  split
  · exact ⟨'N', by simp, by decide⟩
  · by_cases hfinite : p.isFinite = true
    · exact ⟨'.', by by_cases hneg : p.negative = true <;> simp [hfinite, hneg], by decide⟩
    · exact ⟨'i', by by_cases hneg : p.negative = true <;> simp [hfinite, hneg], by decide⟩

end Binary64

/-! ## Dates and times -/

namespace Calendar

def Date.yearSign (year : Int) : List Char :=
  if year < 0 then ['-'] else if year ≤ 9999 then [] else ['+']

theorem Date.yearText_eq (year : Int) :
    yearText year = yearSign year ++ zeroPad 4 year.natAbs := by
  unfold yearText yearSign
  split
  · rfl
  · have habs : year.natAbs = year.toNat := by omega
    rw [habs]
    split <;> rfl

theorem Date.not_isDigit_of_mem_yearSign {year : Int} {c : Char} (h : c ∈ yearSign year) :
    ¬ c.isDigit = true := by
  unfold yearSign at h
  split at h
  · rw [List.mem_singleton.1 h]; decide
  · split at h
    · exact absurd h List.not_mem_nil
    · rw [List.mem_singleton.1 h]; decide

theorem Date.mem_text {d : Date} {c : Char} (h : c ∈ d.text) :
    c.isDigit = true ∨ c ∈ ['-', '+'] := by
  have hpad {width n : Nat} (h : c ∈ zeroPad width n) : c.isDigit = true := isDigit_of_mem_zeroPad h
  simp only [text, yearText_eq, yearSign] at h
  grind

theorem Date.delimits_yearText :
    Delimits yearText Eq fun s => ∀ c ∈ s.head?, ¬ c.isDigit = true := by
  have hsign : Delimits yearSign (fun y z => yearSign y = yearSign z)
      fun s => ∀ c ∈ s.head?, ¬ ¬ c.isDigit = true :=
    delimits_run fun _ _ => not_isDigit_of_mem_yearSign
  have h := hsign.append ((delimits_zeroPad 4).comap Int.natAbs)
    fun y s _ c hc hn => hn (isDigit_head_zeroPad c hc)
  rw [funext yearText_eq]
  refine h.imp (fun y z ⟨hs, ha⟩ => ?_) fun _ h => h
  have ha : y.natAbs = z.natAbs := ha
  unfold yearSign at hs
  grind

theorem Date.delimits_text :
    Delimits text Eq fun s => ∀ c ∈ s.head?, ¬ c.isDigit = true := by
  have hyear := delimits_yearText.comap Date.year
  have hmonth := ((delimits_zeroPad 2).comap Date.month).after ['-']
  have hday := ((delimits_zeroPad 2).comap Date.day).after ['-']
  exact ((hyear.append hmonth (by simp)).append hday (by simp)).imp
    (fun _ _ ⟨⟨hy, hm⟩, hd⟩ => Date.ext hy hm hd) fun _ h => h

theorem TimeOfDay.delimits_clockText :
    Delimits clockText (fun t u => (t.hour = u.hour ∧ t.minute = u.minute) ∧ t.second = u.second)
      fun s => ∀ c ∈ s.head?, ¬ c.isDigit = true := by
  have hhour := (delimits_zeroPad 2).comap TimeOfDay.hour
  have hminute := ((delimits_zeroPad 2).comap TimeOfDay.minute).after [':']
  have hsecond := ((delimits_zeroPad 2).comap TimeOfDay.second).after [':']
  exact (hhour.append hminute (by simp)).append hsecond (by simp)

theorem TimeOfDay.mem_clockText {t : TimeOfDay} {c : Char} (h : c ∈ t.clockText) :
    c.isDigit = true ∨ c = ':' := by
  have hpad {width n : Nat} (h : c ∈ zeroPad width n) : c.isDigit = true := isDigit_of_mem_zeroPad h
  unfold clockText at h
  grind

/-- Times with whole seconds are the same if their clocks show the same. -/
theorem TimeOfDay.eq_of_clockText {t u : TimeOfDay} (ht : t.nanosecond = 0)
    (hu : u.nanosecond = 0) (h : t.clockText = u.clockText) : t = u := by
  obtain ⟨⟨hhour, hminute⟩, hsecond⟩ := delimits_clockText.of_eq (by simp) h
  cases t
  cases u
  simp_all

theorem Moment.eq_of_text {m n : Moment} (hm : m.time.nanosecond = 0) (hn : n.time.nanosecond = 0)
    (h : m.date.text ++ ' ' :: m.time.clockText = n.date.text ++ ' ' :: n.time.clockText) :
    m = n := by
  obtain ⟨hdate, htime⟩ := Date.delimits_text (by simp) (by simp) h
  have htime := TimeOfDay.eq_of_clockText hm hn (List.cons.inj htime).2
  cases m
  cases n
  simp_all

end Calendar

/-! ## Literals -/

namespace Literal

theorem text_form (l : Literal) : l.form.text = (Dialect.literal l).toList := by
  have hdate (d : Calendar.Date) : '\'' ∉ d.text := fun h =>
    (Calendar.Date.mem_text h).elim (by decide) (by decide)
  have hclock (t : Calendar.TimeOfDay) : '\'' ∉ t.clockText := fun h =>
    (Calendar.TimeOfDay.mem_clockText h).elim (by decide) (by decide)
  have hmoment (m : Calendar.Moment) : '\'' ∉ m.date.text ++ ' ' :: m.time.clockText := by
    simp [hdate, hclock]
  cases l with
  | integer n => simp [form, LiteralForm.text, LiteralForm.tail, Dialect.literal]
  | decimal p => simp [form, LiteralForm.text, LiteralForm.tail, Dialect.literal]
  | text s => simp [form, LiteralForm.text, LiteralForm.tail, Dialect.literal]
  | boolean b =>
    cases b <;> simp [form, LiteralForm.text, LiteralForm.tail, Dialect.literal]
  | date d =>
    simp [form, LiteralForm.text, LiteralForm.tail, Dialect.literal, double_eq_self (hdate d)]
  | timestamp m =>
    simp [form, LiteralForm.text, LiteralForm.tail, Dialect.literal, double_eq_self (hmoment m)]
  | time t =>
    simp [form, LiteralForm.text, LiteralForm.tail, Dialect.literal, double_eq_self (hclock t)]

theorem mem_word (l : Literal) :
    ∀ c ∈ l.form.word.toList, c.isAlphanum = true ∨ c ∈ ['-', '.'] := by
  have hdigit {c : Char} (h : c.isDigit = true) : c.isAlphanum = true := by
    simp [Char.isAlphanum, h]
  cases l with
  | integer n =>
    intro c h
    rw [form, String.toList_ofList] at h
    rcases isDigit_or_of_mem_intText h with h | rfl
    · exact .inl (hdigit h)
    · exact .inr (by decide)
  | decimal p =>
    have hother : ∀ c ∈ ['-', '.', 'N', 'a', 'i', 'n', 'f'],
        c.isAlphanum = true ∨ c ∈ ['-', '.'] := by simp
    intro c h
    exact (Binary64.mem_fixedText h).elim (fun h => .inl (hdigit h)) (hother c)
  | boolean b => cases b <;> simp [form]
  | text s => simp [form]
  | date d => simp [form]
  | timestamp m => simp [form]
  | time t => simp [form]

/-- Words end at a blank, at a quote and at the end of the statement. -/
theorem not_mem_of_mem_word (l : Literal) : ∀ c ∈ l.form.word.toList, c ∉ [' ', ';', '\''] := by
  have hmarks : ∀ c ∈ [' ', ';', '\''], ¬ (c.isAlphanum = true ∨ c ∈ ['-', '.']) := by simp
  intro c h hc
  exact hmarks c hc (l.mem_word c h)

end Literal

namespace LiteralForm

/-- After the word there is a blank, a quote or the end of the statement. -/
theorem mem_head_tail_append (f : LiteralForm) {s : List Char} (hs : Continues ['\''] s) :
    ∀ c ∈ (f.tail ++ s).head?, ¬ c ∉ [' ', ';', '\''] := by
  intro c hc
  rw [not_not]
  unfold tail at hc
  split at hc
  · rcases hs.of_mem_head c hc with rfl | rfl <;> decide
  · split at hc
    · obtain rfl : '\'' = c := by simpa using hc
      decide
    · obtain rfl : ' ' = c := by simpa using hc
      decide

theorem eq_of_tail {f g : LiteralForm} {s t : List Char} (hword : f.word = g.word)
    (hs : Continues ['\''] s) (ht : Continues ['\''] t) (h : f.tail ++ s = g.tail ++ t) :
    f = g ∧ s = t := by
  obtain ⟨word, b⟩ := f
  obtain ⟨_, c⟩ := g
  obtain rfl : word = _ := hword
  have hquoted (body : String) (u : List Char) :
      ¬ Continues ['\''] (tail ⟨word, some body⟩ ++ u) := by
    by_cases hword : word = "" <;> simp [tail, Continues, hword]
  cases b with
  | none =>
    cases c with
    | none => exact ⟨rfl, h⟩
    | some c =>
      have h : s = _ := h
      exact absurd (h ▸ hs) (hquoted c t)
  | some b =>
    cases c with
    | none =>
      have h : _ = t := h
      exact absurd (h ▸ ht) (hquoted b s)
    | some c =>
      simp only [tail, List.append_assoc, List.append_cancel_left_eq] at h
      obtain ⟨rfl, hst⟩ := delimits_quote '\'' (hs.head?_ne (by decide) (by decide))
        (ht.head?_ne (by decide) (by decide)) h
      exact ⟨rfl, hst⟩

end LiteralForm

namespace Literal

theorem delimits :
    Delimits (fun l : Literal => (Dialect.literal l).toList) (fun l m => l.form = m.form)
      (Continues ['\'']) := by
  intro l m s t hs ht h
  simp only [← text_form, LiteralForm.text, List.append_assoc] at h
  obtain ⟨hword, htail⟩ := append_inj_of_run l.not_mem_of_mem_word m.not_mem_of_mem_word
    (l.form.mem_head_tail_append hs) (m.form.mem_head_tail_append ht) h
  exact LiteralForm.eq_of_tail (String.toList_inj.1 hword) hs ht htail

/-! ### The literal of a form -/

theorem ofList_intText_ne_fixedText (n : Int) (p : Binary64) :
    String.ofList (intText n) ≠ p.fixedText := by
  intro h
  have h : intText n = p.fixedText.toList := by rw [← h, String.toList_ofList]
  obtain ⟨c, hc, hdigit, hhyphen⟩ := p.exists_mem_fixedText
  rcases isDigit_or_of_mem_intText (h ▸ hc) with hn | hn
  · rw [hdigit] at hn
    contradiction
  · exact hhyphen hn

/-- Truth values have a letter in them that no number has. -/
theorem letter_mem_truth (b : Bool) : 'E' ∈ (if b then "TRUE" else "FALSE").toList := by
  cases b <;> decide

theorem ofList_intText_ne_truth (n : Int) (b : Bool) :
    String.ofList (intText n) ≠ if b then "TRUE" else "FALSE" := by
  intro h
  have hmem := letter_mem_truth b
  rw [← h, String.toList_ofList] at hmem
  rcases isDigit_or_of_mem_intText hmem with h | h <;> exact absurd h (by decide)

theorem fixedText_ne_truth (p : Binary64) (b : Bool) :
    p.fixedText ≠ if b then "TRUE" else "FALSE" := by
  intro h
  rcases Binary64.mem_fixedText (h ▸ letter_mem_truth b) with h | h <;> exact absurd h (by decide)

theorem alike_of_form {l m : Literal} (hl : l.IsWhole) (hm : m.IsWhole) (h : l.form = m.form) :
    l.Alike m := by
  cases l <;> cases m <;>
    simp only [form, LiteralForm.mk.injEq, reduceCtorEq, and_true, and_false, true_and, false_and,
      String.reduceEq, Option.some.injEq, ofList_intText_ne_fixedText,
      (ofList_intText_ne_fixedText _ _).symm, ofList_intText_ne_truth,
      (ofList_intText_ne_truth _ _).symm, fixedText_ne_truth, (fixedText_ne_truth _ _).symm] at h
  case integer.integer n k =>
    obtain rfl := intText_injective (String.ofList_injective h)
    exact .refl _
  case decimal.decimal p r => exact .decimal h
  case text.text s u =>
    subst h
    exact .refl _
  case boolean.boolean b c =>
    have truth_inj : ∀ b c : Bool,
        (if b then "TRUE" else "FALSE") = (if c then "TRUE" else "FALSE") → b = c := by decide
    obtain rfl := truth_inj b c h
    exact .refl _
  case date.date d e =>
    obtain rfl := Calendar.Date.delimits_text.of_eq (by simp) (String.ofList_injective h)
    exact .refl _
  case timestamp.timestamp m n =>
    obtain rfl := Calendar.Moment.eq_of_text hl hm (String.ofList_injective h)
    exact .refl _
  case time.time t u =>
    obtain rfl := Calendar.TimeOfDay.eq_of_clockText hl hm (String.ofList_injective h)
    exact .refl _

theorem Alike.literal_eq {l m : Literal} (h : l.Alike m) :
    Dialect.literal l = Dialect.literal m := by
  cases h with
  | refl => rfl
  | decimal h => exact h

end Literal

end SqlWorkload
