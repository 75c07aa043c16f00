import SqlWorkload.Text.Digits
/-!
# Dates

Days of the Gregorian calendar, carried back before its introduction; the year before year 1 is
year 0. A date is always a day that exists.
-/

namespace SqlWorkload.Calendar

/-! ## Algorithm -/

def isLeap (year : Int) : Bool :=
  year % 4 == 0 && (year % 100 != 0 || year % 400 == 0)

def daysInMonth (year : Int) (month : Nat) : Nat :=
  match month with
  | 2 => if isLeap year then 29 else 28
  | 4 | 6 | 9 | 11 => 30
  | _ => 31

structure Date where
  year : Int
  month : Nat
  day : Nat
  month_mem : 1 ≤ month ∧ month ≤ 12
  day_mem : 1 ≤ day ∧ day ≤ daysInMonth year month
deriving DecidableEq

theorem daysInMonth_pos (year : Int) (month : Nat) : 1 ≤ daysInMonth year month := by
  unfold daysInMonth; split <;> (try split) <;> decide

namespace Date

/-- The date of that year, month and day, if there is such a day. -/
def of? (year : Int) (month day : Nat) : Option Date :=
  if h : (1 ≤ month ∧ month ≤ 12) ∧ 1 ≤ day ∧ day ≤ daysInMonth year month then
    some ⟨year, month, day, h.1, h.2⟩
  else none

/-- The first of January. -/
def newYear (year : Int) : Date :=
  ⟨year, 1, 1, by decide, ⟨Nat.le_refl 1, daysInMonth_pos _ _⟩⟩

/-- The day after. -/
def next (d : Date) : Date :=
  if h : d.day < daysInMonth d.year d.month then
    { d with day := d.day + 1, day_mem := ⟨by omega, h⟩ }
  else if h : d.month < 12 then
    ⟨d.year, d.month + 1, 1, ⟨by omega, h⟩, ⟨Nat.le_refl 1, daysInMonth_pos _ _⟩⟩
  else newYear (d.year + 1)

/-- The day before. -/
def prev (d : Date) : Date :=
  have := d.month_mem
  have := d.day_mem
  if h : 1 < d.day then
    { d with day := d.day - 1, day_mem := ⟨by omega, by omega⟩ }
  else if h : 1 < d.month then
    ⟨d.year, d.month - 1, daysInMonth d.year (d.month - 1), ⟨by omega, by omega⟩,
      ⟨daysInMonth_pos _ _, Nat.le_refl _⟩⟩
  else ⟨d.year - 1, 12, daysInMonth (d.year - 1) 12, by decide,
      ⟨daysInMonth_pos _ _, Nat.le_refl _⟩⟩

/-- The date `n` days later. -/
def addDays (d : Date) : Nat → Date
  | 0 => d
  | n + 1 => d.next.addDays n

/-- Four digits for the years 0 to 9999; any other year has a sign and at least four digits. -/
def yearText (year : Int) : List Char :=
  if year < 0 then '-' :: Text.zeroPad 4 year.natAbs
  else if year ≤ 9999 then Text.zeroPad 4 year.toNat
  else '+' :: Text.zeroPad 4 year.toNat

/-- Year, month and day with hyphens between them. -/
def text (d : Date) : List Char :=
  yearText d.year ++ '-' :: Text.zeroPad 2 d.month ++ '-' :: Text.zeroPad 2 d.day

/-- The years that a stored date may have. -/
def minYear : Int := -262143

def maxYear : Int := 262142

def inRange (d : Date) : Bool := minYear ≤ d.year && d.year ≤ maxYear

/-! ## Lemmas -/

theorem ext {d e : Date} (hy : d.year = e.year) (hm : d.month = e.month) (hd : d.day = e.day) :
    d = e := by
  cases d; cases e; cases hy; cases hm; cases hd; rfl

theorem addDays_succ (d : Date) (n : Nat) : d.addDays (n + 1) = (d.addDays n).next := by
  induction n generalizing d with
  | zero => rfl
  | succ n ih => exact ih d.next

end Date

end SqlWorkload.Calendar
