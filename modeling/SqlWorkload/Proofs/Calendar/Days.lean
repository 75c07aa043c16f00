import SqlWorkload.Calendar.Moment
/-!
# The order of days

Dates in the order of time, which is that of year, month and day. The day after a date is later, and
so more days after a date are never earlier.

    d ≤ d.next                                                    (le_next)
    m ≤ n → d.addDays m ≤ d.addDays n                             (addDays_le_addDays)
    between two dates of the stored range all days are in range   (addDays?_eq_some)
-/

namespace SqlWorkload.Calendar.Date

/-- The date `n` days later, if it has one of the years that a stored date may have. -/
def addDays? (d : Date) (n : Nat) : Option Date :=
  if (d.addDays n).inRange then some (d.addDays n) else none

/-- The order of year, month and day. -/
instance : LE Date where
  le d e := d.year < e.year ∨
    d.year = e.year ∧ (d.month < e.month ∨ d.month = e.month ∧ d.day ≤ e.day)

theorem le_iff {d e : Date} : d ≤ e ↔ d.year < e.year ∨
    d.year = e.year ∧ (d.month < e.month ∨ d.month = e.month ∧ d.day ≤ e.day) := Iff.rfl

instance (d e : Date) : Decidable (d ≤ e) := decidable_of_iff _ le_iff.symm

theorem addDays_add (d : Date) (m n : Nat) : d.addDays (m + n) = (d.addDays m).addDays n := by
  induction n with
  | zero => rfl
  | succ n ih => rw [← Nat.add_assoc, addDays_succ, ih, addDays_succ]

theorem le_refl (d : Date) : d ≤ d := .inr ⟨rfl, .inr ⟨rfl, Nat.le_refl _⟩⟩

theorem le_trans {d e f : Date} (hde : d ≤ e) (hef : e ≤ f) : d ≤ f := by
  rw [le_iff] at *
  omega

theorem le_next (d : Date) : d ≤ d.next := by
  rw [le_iff]
  unfold next
  split
  · next h => exact .inr ⟨rfl, .inr ⟨rfl, Nat.le_succ _⟩⟩
  · split
    · next h => exact .inr ⟨rfl, .inl (Nat.lt_succ_self _)⟩
    · next h => exact .inl (Int.lt_succ _)

theorem addDays_le_addDays (d : Date) {m n : Nat} (h : m ≤ n) : d.addDays m ≤ d.addDays n := by
  induction h with
  | refl => exact le_refl _
  | step _ ih =>
    rw [addDays_succ]
    exact le_trans ih (le_next _)

theorem year_le_year {d e : Date} (h : d ≤ e) : d.year ≤ e.year := by
  rw [le_iff] at h
  omega

theorem inRange_of_le {d e f : Date} (hd : d.inRange = true) (hf : f.inRange = true)
    (hde : d ≤ e) (hef : e ≤ f) : e.inRange = true := by
  rw [inRange, Bool.and_eq_true, decide_eq_true_iff, decide_eq_true_iff] at *
  exact ⟨Int.le_trans hd.1 (year_le_year hde), Int.le_trans (year_le_year hef) hf.2⟩

theorem addDays?_eq_some {d e : Date} {n : Nat} (hd : d.inRange = true) (he : e.inRange = true)
    (h : d.addDays n ≤ e) : d.addDays? n = some (d.addDays n) :=
  if_pos (inRange_of_le hd he (addDays_le_addDays d (Nat.zero_le n)) h)

end SqlWorkload.Calendar.Date
