import SqlWorkload.Query.Basic
import SqlWorkload.Random.Draw
/-!
# Literals

Random values that a column is compared with: small positive numbers, short tokens that fit the
declared length, and days and times from the five years after the first of January 2020. A pattern
is a token with a percent sign after it.
-/

namespace SqlWorkload.Generation

open SqlWorkload.Random

def alphabet : List Char := "abcdefghijklmnopqrstuvwxyz0123456789".toList

/-- The length of the longest token, and of the longest token in a pattern. -/
def maxToken : Nat := 8

def maxPattern : Nat := 3

/-- The length of the longest token that fits the column. -/
def tokenLimit (c : Column) : Nat :=
  match c.maxLength with
  | some (.ofNat n) => max 1 (min n maxToken)
  | _ => maxToken

def firstDay : Calendar.Date := .newYear 2020

/-- The number of days that a date is drawn from. -/
def daySpan : Nat := 5 * 365 + 1

theorem tokenLimit_pos (c : Column) : 0 < tokenLimit c := by
  unfold tokenLimit; split
  · omega
  · decide

def token (n : Nat) : Draw (List Char) := Draw.many n (Draw.pick alphabet (by decide))

/-- A token of one to `limit` characters. -/
def tokenUpTo (limit : Nat) (h : 0 < limit) : Draw (List Char) := do
  let n ← Draw.below limit h
  token (n + 1)

def date : Draw Calendar.Date :=
  return firstDay.addDays (← Draw.belowLong daySpan (by decide))

def time : Draw Calendar.TimeOfDay := do
  let n ← Draw.below 86400 (by decide)
  return .ofSeconds n n.isLt

/-- A value that is valid for the column under the operator. -/
def literal (c : Column) (op : CompareOp) : Draw Literal :=
  match c.family with
  | .integer => return .integer ((← Draw.belowLong 1000 (by decide)) + 1 : Nat)
  | .decimal => return .decimal (.ofRatio (← Draw.below 100000 (by decide)) 100)
  | .character =>
    if op = .like then
      return .text (String.ofList
        ((← tokenUpTo (min (tokenLimit c) maxPattern)
          (Nat.lt_min.2 ⟨tokenLimit_pos c, by decide⟩)) ++ ['%']))
    else return .text (String.ofList (← tokenUpTo (tokenLimit c) (tokenLimit_pos c)))
  | .boolean => return .boolean (← Draw.chance (.ofRatio 1 2))
  | .date => return .date (← date)
  | .timestamp => do
    let day ← date
    return .timestamp ⟨day, ← time⟩
  | .time => return .time (← time)
  | .other => return .text (String.ofList (← token maxToken))

end SqlWorkload.Generation
