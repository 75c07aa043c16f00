import SqlWorkload.Calendar.Reader
/-!
# Moments that come back from their texts

A number with zeros in front is read as that number, as long as the reader takes as many digits and
meets no further one. So each part of a moment is read from the front of its text, and what stands
behind it is left.

    numbers of a fixed width are read from the front of a text    (readNumber_zeroPad)
    a date in range is read from the front of a text              (spanDate_text)
    and so is a time that no further digit follows                (spanTime_text)
    a moment in Greenwich time is read as itself                  (readInstant_text)
-/

namespace SqlWorkload.Calendar

open Text

/-! ## Numbers -/

/-- What follows is not taken for more digits. -/
def NoDigit (s : List Char) : Prop := ∀ c ∈ s.head?, c.isDigit = false

theorem spanDigits_append_of_le {most : Nat} {digits rest : List Char}
    (hdigits : ∀ c ∈ digits, c.isDigit = true) (hle : digits.length ≤ most)
    (hrest : digits.length = most ∨ NoDigit rest) :
    spanDigits most (digits ++ rest) = (digits, rest) := by
  induction digits generalizing most with
  | nil =>
    cases most with
    | zero => simp [spanDigits]
    | succ most =>
      have hrest : NoDigit rest := hrest.resolve_left (by simp)
      cases rest with
      | nil => rfl
      | cons c rest =>
        have hc : c.isDigit = false := hrest c rfl
        simp [spanDigits, hc]
  | cons c digits ih =>
    obtain ⟨hc, hdigits⟩ := List.forall_mem_cons.1 hdigits
    cases most with
    | zero => simp at hle
    | succ most =>
      have hnext := ih hdigits (Nat.le_of_succ_le_succ hle) (hrest.imp_left Nat.succ.inj)
      simp [spanDigits, hc, hnext]

theorem zeroPad_ne_nil (width n : Nat) : zeroPad width n ≠ [] :=
  List.append_ne_nil_of_right_ne_nil _ Nat.toDigits_ne_nil

theorem readNumber_zeroPad {most width n : Nat} {rest : List Char}
    (hle : (zeroPad width n).length ≤ most)
    (hrest : (zeroPad width n).length = most ∨ NoDigit rest) :
    readNumber most (zeroPad width n ++ rest) = some (n, rest) := by
  have hspan := spanDigits_append_of_le (fun _ => isDigit_of_mem_zeroPad) hle hrest
  have hvalue := digitsValue_zeroPad width n
  revert hspan hvalue
  cases hdigits : zeroPad width n with
  | nil => exact absurd hdigits (zeroPad_ne_nil width n)
  | cons c digits =>
    intro hspan hvalue
    rw [readNumber, hspan]
    exact congrArg (fun n => some (n, rest)) hvalue

theorem length_zeroPad_of_lt {width n : Nat} (hwidth : 0 < width) (h : n < Nat.pow 10 width) :
    (zeroPad width n).length = width := by
  rw [length_zeroPad]
  exact Nat.max_eq_left ((Nat.length_toDigits_le_iff (by decide) hwidth).2 h)

theorem isBlank_of_isDigit {c : Char} (h : c.isDigit = true) : isBlank c = false := by
  have hcode : 48 ≤ c.toNat ∧ c.toNat ≤ 57 := by
    simp only [Char.isDigit, Bool.and_eq_true, decide_eq_true_eq] at h
    exact ⟨UInt32.le_iff_toNat_le.1 h.1, UInt32.le_iff_toNat_le.1 h.2⟩
  simp only [isBlank, Bool.or_eq_false_iff, Bool.and_eq_false_iff, decide_eq_false_iff_not,
    beq_eq_false_iff_ne]
  omega

theorem exists_zeroPad_eq_cons (width n : Nat) :
    ∃ c digits, zeroPad width n = c :: digits ∧ c.isDigit = true := by
  obtain ⟨c, digits, h⟩ := List.exists_cons_of_ne_nil (zeroPad_ne_nil width n)
  exact ⟨c, digits, h, isDigit_of_mem_zeroPad (h ▸ List.mem_cons_self)⟩

theorem trimStart_zeroPad (width n : Nat) (rest : List Char) :
    trimStart (zeroPad width n ++ rest) = zeroPad width n ++ rest := by
  obtain ⟨c, digits, h, hc⟩ := exists_zeroPad_eq_cons width n
  rw [h]
  exact trimStart_eq_self (isBlank_of_isDigit hc)

/-- Behind two digits anything may follow. -/
theorem readTwo_zeroPad {n : Nat} (h : n < 100) (rest : List Char) :
    readTwo (zeroPad 2 n ++ rest) = some (n, rest) := by
  have hlength : (zeroPad 2 n).length = 2 := length_zeroPad_of_lt (by decide) h
  rw [readTwo, trimStart_zeroPad]
  exact readNumber_zeroPad (Nat.le_of_eq hlength) (.inl hlength)

theorem readMark_cons {c : Char} (h : isBlank c = false) (rest : List Char) :
    readMark c (c :: rest) = some rest := by
  rw [readMark, trimStart_eq_self h]
  exact if_pos rfl

/-! ## Dates -/

theorem readYear_yearText (year : Int) {rest : List Char} (hrest : NoDigit rest) :
    readYear (Date.yearText year ++ rest) = some (year, rest) := by
  have hsigned (n : Nat) : readNumber (zeroPad 4 n ++ rest).length (zeroPad 4 n ++ rest) =
      some (n, rest) :=
    readNumber_zeroPad (by simp) (.inr hrest)
  unfold Date.yearText
  split
  · next hneg =>
    have hyear : -(year.natAbs : Int) = year := by omega
    rw [List.cons_append, readYear, trimStart_eq_self (show isBlank '-' = false from rfl)]
    show (readNumber (zeroPad 4 year.natAbs ++ rest).length
      (zeroPad 4 year.natAbs ++ rest)).map _ = _
    rw [hsigned, Option.map_some]
    exact congrArg (fun y => some (y, rest)) hyear
  split
  · next hneg hle =>
    have hlt : year.toNat < Nat.pow 10 4 := by
      show year.toNat < 10000
      omega
    have hlength := length_zeroPad_of_lt (by decide) hlt
    have hread : readNumber 4 (zeroPad 4 year.toNat ++ rest) = some (year.toNat, rest) :=
      readNumber_zeroPad (Nat.le_of_eq hlength) (.inl hlength)
    have hyear : (year.toNat : Int) = year := by omega
    rw [readYear, trimStart_zeroPad]
    obtain ⟨c, digits, hcons, hc⟩ := exists_zeroPad_eq_cons 4 year.toNat
    rw [hcons] at hread ⊢
    -- the first digit is neither of the signs
    split
    · next heq => cases heq; contradiction
    · next heq => cases heq; contradiction
    · rw [hread, Option.map_some]
      exact congrArg (fun y => some (y, rest)) hyear
  · next hneg hle =>
    have hyear : (year.toNat : Int) = year := by omega
    rw [List.cons_append, readYear, trimStart_eq_self (show isBlank '+' = false from rfl)]
    show (readNumber (zeroPad 4 year.toNat ++ rest).length (zeroPad 4 year.toNat ++ rest)).map _ = _
    rw [hsigned, Option.map_some]
    exact congrArg (fun y => some (y, rest)) hyear

theorem Date.of?_self (d : Date) : Date.of? d.year d.month d.day = some d :=
  dif_pos ⟨d.month_mem, d.day_mem⟩

theorem spanDate_text {d : Date} (h : d.inRange = true) (rest : List Char) :
    spanDate (d.text ++ rest) = some (d, rest) := by
  have hmonth : d.month < 100 := by have := d.month_mem; omega
  have hday : d.day < 100 := by
    have hmem := d.day_mem
    have hle : daysInMonth d.year d.month ≤ 31 := by
      unfold daysInMonth
      split <;> (try split) <;> decide
    omega
  have hyear : readYear (d.text ++ rest) =
      some (d.year, '-' :: (zeroPad 2 d.month ++ '-' :: (zeroPad 2 d.day ++ rest))) := by
    rw [← readYear_yearText d.year (by simp [NoDigit])]
    simp [Date.text]
  simp only [spanDate, hyear, readMark_cons (show isBlank '-' = false from rfl),
    readTwo_zeroPad hmonth, readTwo_zeroPad hday, Date.of?_self, h, Option.bind_eq_bind,
    Option.bind_some, if_true]

/-! ## Times -/

theorem spanFraction_point {width n : Nat} (hwidth : 0 < width) (hle : width ≤ 9)
    (h : n < Nat.pow 10 width) {rest : List Char} (hrest : NoDigit rest) :
    spanFraction ('.' :: (zeroPad width n ++ rest)) = some (n * Nat.pow 10 (9 - width), rest) := by
  have hlength := length_zeroPad_of_lt hwidth h
  have hspan : spanDigits 9 (zeroPad width n ++ rest) = (zeroPad width n, rest) :=
    spanDigits_append_of_le (fun _ => isDigit_of_mem_zeroPad)
      (Nat.le_trans (Nat.le_of_eq hlength) hle) (.inr hrest)
  have hdrop : rest.dropWhile Char.isDigit = rest := by
    cases rest with
    | nil => rfl
    | cons c rest => simp [hrest c rfl]
  have hvalue := digitsValue_zeroPad width n
  rw [spanFraction, hspan]
  obtain ⟨c, digits, hcons, -⟩ := exists_zeroPad_eq_cons width n
  rw [hcons] at hlength hvalue ⊢
  dsimp only
  rw [hvalue, hlength, hdrop]

/-- The digits that are left out are zeros. -/
theorem spanFraction_fractionText {n : Nat} (h : n < 1000000000) {rest : List Char}
    (hrest : NoDigit rest) (hpoint : ∀ c ∈ rest.head?, c ≠ '.') :
    spanFraction (TimeOfDay.fractionText n ++ rest) = some (n, rest) := by
  unfold TimeOfDay.fractionText
  split
  · next hzero =>
    subst hzero
    rw [List.nil_append, spanFraction]
    rintro t rfl
    exact hpoint '.' rfl rfl
  split
  · next hmilli =>
    have hn : n / 1000000 * 1000000 = n := by omega
    exact (spanFraction_point (by decide) (by decide)
      (show n / 1000000 < 1000 by omega) hrest).trans (congrArg (fun n => some (n, rest)) hn)
  split
  · next hmicro =>
    have hn : n / 1000 * 1000 = n := by omega
    exact (spanFraction_point (by decide) (by decide)
      (show n / 1000 < 1000000 by omega) hrest).trans (congrArg (fun n => some (n, rest)) hn)
  · exact (spanFraction_point (by decide) (by decide) h hrest).trans
      (congrArg (fun n => some (n, rest)) (Nat.mul_one n))

theorem TimeOfDay.of?_self (t : TimeOfDay) :
    TimeOfDay.of? t.hour t.minute t.second t.nanosecond = some t :=
  dif_pos ⟨⟨t.hour_lt, t.minute_lt⟩, t.second_le, t.nanosecond_lt⟩

theorem spanTime_text (t : TimeOfDay) {rest : List Char} (hrest : NoDigit rest)
    (hpoint : ∀ c ∈ rest.head?, c ≠ '.') : spanTime (t.text ++ rest) = some (t, rest) := by
  have hcolon : isBlank ':' = false := rfl
  have hhour : t.hour < 100 := Nat.lt_trans t.hour_lt (by decide)
  have hminute : t.minute < 100 := Nat.lt_trans t.minute_lt (by decide)
  have hsecond : t.second < 100 := Nat.lt_of_le_of_lt t.second_le (by decide)
  have htext : t.text ++ rest = zeroPad 2 t.hour ++ ':' :: (zeroPad 2 t.minute ++ ':' ::
      (zeroPad 2 t.second ++ (TimeOfDay.fractionText t.nanosecond ++ rest))) := by
    simp [TimeOfDay.text, TimeOfDay.clockText]
  rw [htext]
  simp only [spanTime, spanMinutes, spanSeconds, readTwo_zeroPad hhour, readTwo_zeroPad hminute,
    readTwo_zeroPad hsecond, readMark_cons hcolon, t.second_le, if_true,
    spanFraction_fractionText t.nanosecond_lt hrest hpoint, TimeOfDay.of?_self,
    Option.bind_eq_bind, Option.bind_some]

/-! ## Moments -/

/-- Where the clock is not turned, neither is the calendar. -/
theorem Moment.shift_zero (m : Moment) : m.shift 0 = m := by
  obtain ⟨date, time⟩ := m
  have hhour := time.hour_lt
  have hminute := time.minute_lt
  have htime : time.turn 0 = time := by
    have hturn : (((time.hour * 60 + time.minute : Nat) + 0 : Int) % 1440).toNat =
        time.hour * 60 + time.minute := by omega
    cases time
    simp only [TimeOfDay.turn, TimeOfDay.mk.injEq, hturn, and_true]
    dsimp only at hminute
    omega
  have hbefore : ¬((time.hour * 60 + time.minute : Nat) : Int) + 0 < 0 := by omega
  have hafter : ¬1440 ≤ ((time.hour * 60 + time.minute : Nat) : Int) + 0 := by omega
  rw [shift, htime]
  dsimp only
  rw [if_neg hbefore, if_neg hafter]

theorem readInstant_text {m : Moment} (h : m.date.inRange = true) :
    readInstant (m.text ++ ['Z']) = some m := by
  have htext : m.text ++ ['Z'] = m.date.text ++ 'T' :: (m.time.text ++ ['Z']) := by
    simp [Moment.text]
  have htime : spanTime (m.time.text ++ ['Z']) = some (m.time, ['Z']) :=
    spanTime_text m.time (by simp [NoDigit]) (by simp)
  have hoffset : spanOffset ['Z'] = some (0, []) := rfl
  rw [htext]
  simp only [readInstant, spanDate_text h, htime, hoffset, Option.bind_eq_bind, Option.bind_some,
    Int.neg_zero, Moment.shift_zero, h, if_true]
  rfl

end SqlWorkload.Calendar
