import SqlWorkload.Text.Blank
import SqlWorkload.Text.Lowercase
import SqlWorkload.Calendar.Moment
/-!
# Reading dates and times

The forms of dates and times that stored documents may hold. Blanks may stand before each number,
hyphen and colon. A year has at most four digits, or a sign and any number of them; every other
number has one or two digits, fractions of a second any number, of which nine count. A moment with
an offset from Greenwich is turned into Greenwich time.

    readDate     2024-2-29
    readTime     05:06, 05:06:07, 05:06:07.25
    readMoment   2024-02-29T05:06:07
    readInstant  2024-02-29T05:06:07Z, 2024-02-29 05:06:07.5+02:00
-/

namespace SqlWorkload.Calendar

open Text

/-- The rest of a text after `c`, blanks before it left out. -/
def readMark (c : Char) (s : List Char) : Option (List Char) :=
  match trimStart s with
  | d :: rest => if d = c then some rest else none
  | [] => none

/-- One or two digits, blanks before them left out. -/
def readTwo (s : List Char) : Option (Nat × List Char) := readNumber 2 (trimStart s)

def readYear (s : List Char) : Option (Int × List Char) :=
  match trimStart s with
  | '-' :: rest => (readNumber rest.length rest).map fun (n, rest) => (-n, rest)
  | '+' :: rest => (readNumber rest.length rest).map fun (n, rest) => (n, rest)
  | s => (readNumber 4 s).map fun (n, rest) => (n, rest)

/-- A date at the front of a text. -/
def spanDate (s : List Char) : Option (Date × List Char) := do
  let (year, s) ← readYear s
  let (month, s) ← readTwo (← readMark '-' s)
  let (day, s) ← readTwo (← readMark '-' s)
  let date ← Date.of? year month day
  if date.inRange then some (date, s) else none

/-- A fraction of a second in nanoseconds; no point, no fraction. -/
def spanFraction (s : List Char) : Option (Nat × List Char) :=
  match s with
  | '.' :: rest =>
    match spanDigits 9 rest with
    | ([], _) => none
    | (digits, rest) =>
      some (digitsValue digits * Nat.pow 10 (9 - digits.length), rest.dropWhile Char.isDigit)
  | s => some (0, s)

/-- Seconds with their fraction, after a colon. -/
def spanSeconds (s : List Char) : Option ((Nat × Nat) × List Char) := do
  let (second, s) ← readTwo (← readMark ':' s)
  let (fraction, s) ← spanFraction s
  if second ≤ 60 then some ((second, fraction), s) else none

def spanMinutes (s : List Char) : Option ((Nat × Nat) × List Char) := do
  let (hour, s) ← readTwo s
  let (minute, s) ← readTwo (← readMark ':' s)
  some ((hour, minute), s)

/-- A time of day with its seconds at the front of a text. -/
def spanTime (s : List Char) : Option (TimeOfDay × List Char) := do
  let ((hour, minute), s) ← spanMinutes s
  let ((second, fraction), s) ← spanSeconds s
  some (← TimeOfDay.of? hour minute second fraction, s)

/-- An offset from Greenwich in minutes: the name of Greenwich time, or a sign, two digits of hours
and two of minutes. -/
def spanOffset (s : List Char) : Option (Int × List Char) :=
  match trimStart s with
  | 'Z' :: rest | 'z' :: rest => some (0, rest)
  | a :: b :: c :: rest =>
    if [a.toLower, b.toLower, c.toLower] = ['u', 't', 'c'] then some (0, rest)
    else
      let digits := b :: c :: rest
      match a with
      | '+' => minutesOf digits
      | '-' | '\u2212' => (minutesOf digits).map fun (m, rest) => (-m, rest)
      | _ => none
  | _ => none
where
  minutesOf : List Char → Option (Int × List Char)
    | h₁ :: h₂ :: rest =>
      match rest.dropWhile fun c => c == ':' || isBlank c with
      | m₁ :: m₂ :: rest =>
        if [h₁, h₂, m₁, m₂].all Char.isDigit then
          let hours := digitsValue [h₁, h₂]
          let minutes := digitsValue [m₁, m₂]
          if hours < 24 ∧ minutes < 60 then some ((hours * 60 + minutes : Nat), rest) else none
        else none
      | _ => none
    | _ => none

/-- The value of a whole text, blanks at its end left out. -/
def whole {α : Type} (r : Option (α × List Char)) : Option α :=
  match r with
  | some (a, rest) => if rest.all isBlank then some a else none
  | none => none

def readDate (s : List Char) : Option Date := whole (spanDate s)

/-- A time of day; its seconds may be left out. -/
def readTime (s : List Char) : Option TimeOfDay := do
  let ((hour, minute), s) ← spanMinutes s
  let ((second, fraction), s) := (spanSeconds s).getD ((0, 0), s)
  whole (some (← TimeOfDay.of? hour minute second fraction, s))

/-- A date and a time with a capital T between them. -/
def readMoment (s : List Char) : Option Moment := do
  let (date, s) ← spanDate s
  let (time, s) ← spanTime (← readMark 'T' s)
  whole (some (⟨date, time⟩, s))

/-- A date, one of the letters T and t or a space, a time and an offset; the answer is in Greenwich
time. -/
def readInstant (s : List Char) : Option Moment := do
  let (date, s) ← spanDate s
  let s ← match s with
    | 'T' :: rest | 't' :: rest | ' ' :: rest => some rest
    | _ => none
  let (time, s) ← spanTime s
  let (offset, s) ← spanOffset s
  let moment := (Moment.mk date time).shift (-offset)
  if moment.date.inRange then whole (some (moment, s)) else none

end SqlWorkload.Calendar
