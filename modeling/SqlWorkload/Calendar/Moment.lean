import SqlWorkload.Calendar.Date
/-!
# Times and moments

Times of day to the nanosecond, and dates with a time. A minute may have a sixty-first second,
numbered 60.
-/

namespace SqlWorkload.Calendar

structure TimeOfDay where
  hour : Nat
  minute : Nat
  second : Nat
  nanosecond : Nat
  hour_lt : hour < 24
  minute_lt : minute < 60
  second_le : second ≤ 60
  nanosecond_lt : nanosecond < 1000000000
deriving DecidableEq

structure Moment where
  date : Date
  time : TimeOfDay
deriving DecidableEq

namespace TimeOfDay

def of? (hour minute second nanosecond : Nat) : Option TimeOfDay :=
  if h : (hour < 24 ∧ minute < 60) ∧ second ≤ 60 ∧ nanosecond < 1000000000 then
    some ⟨hour, minute, second, nanosecond, h.1.1, h.1.2, h.2.1, h.2.2⟩
  else none

/-- The time `n` whole seconds after midnight. -/
def ofSeconds (n : Nat) (h : n < 86400) : TimeOfDay :=
  ⟨n / 3600, n / 60 % 60, n % 60, 0, by omega, by omega, by omega, by decide⟩

/-- Hours, minutes and seconds, without the fraction. -/
def clockText (t : TimeOfDay) : List Char :=
  Text.zeroPad 2 t.hour ++ ':' :: Text.zeroPad 2 t.minute ++ ':' :: Text.zeroPad 2 t.second

/-- The fraction of a second in three, six or nine digits, as few as show it whole. -/
def fractionText (nanosecond : Nat) : List Char :=
  if nanosecond = 0 then []
  else if nanosecond % 1000000 = 0 then '.' :: Text.zeroPad 3 (nanosecond / 1000000)
  else if nanosecond % 1000 = 0 then '.' :: Text.zeroPad 6 (nanosecond / 1000)
  else '.' :: Text.zeroPad 9 nanosecond

def text (t : TimeOfDay) : List Char := t.clockText ++ fractionText t.nanosecond

/-- The time of day `minutes` later on the clock, its seconds kept. -/
def turn (t : TimeOfDay) (minutes : Int) : TimeOfDay :=
  let m := ((t.hour * 60 + t.minute : Nat) + minutes) % 1440
  have h : 0 ≤ m ∧ m < 1440 := ⟨Int.emod_nonneg _ (by decide), Int.emod_lt_of_pos _ (by decide)⟩
  { t with
    hour := m.toNat / 60, minute := m.toNat % 60,
    hour_lt := by omega, minute_lt := by omega }

end TimeOfDay

namespace Moment

/-- The beginning of a year. -/
def newYear (year : Int) : Moment := ⟨.newYear year, .ofSeconds 0 (Nat.zero_lt_succ 86399)⟩

def text (m : Moment) : List Char := m.date.text ++ 'T' :: m.time.text

/-- The moment `minutes` earlier or later, by less than a day. -/
def shift (m : Moment) (minutes : Int) : Moment :=
  let total := (m.time.hour * 60 + m.time.minute : Nat) + minutes
  { date := if total < 0 then m.date.prev else if 1440 ≤ total then m.date.next else m.date
    time := m.time.turn minutes }

end Moment

end SqlWorkload.Calendar
