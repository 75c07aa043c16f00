import SqlWorkload.Proofs.Calendar.Days
import SqlWorkload.Proofs.Generation.Unguarded
import SqlWorkload.Proofs.Query.LineEnds
/-!
# The values of literals

Which literals a column is compared with: numbers, tokens and patterns of the sizes they are meant
to have, days from the first of January 2020 to the thirtieth of December 2024, and whole seconds.

They are drawn once more in attempts that break off not only where there is nothing to draw from,
but also where the calendar has no such day or the day no such second, and another value would have
to stand in. No attempt ever breaks off.

    the length of a token is limited as the column declares it    (tokenLimit_eq)
    a draw of a literal always fits the column and the operator   (always_fits)
    an attempt at a literal is a draw of a literal                (Strict.literal_eq)
    from every stream the attempt succeeds, with what is drawn, and that fits
                                                                  (fits_literal)
-/

namespace SqlWorkload

/-! ## Specification -/

namespace Calendar.TimeOfDay

/-- The time `n` whole seconds after midnight, if the day is that long. -/
def ofSeconds? (n : Nat) : Option TimeOfDay :=
  if h : n < 86400 then some (ofSeconds n h) else none

/-- Without a fraction, and not in the sixty-first second of a minute. -/
structure IsWholeSecond (t : TimeOfDay) : Prop where
  nanosecond_eq : t.nanosecond = 0
  second_lt : t.second < 60

end Calendar.TimeOfDay

namespace Generation

open SqlWorkload.Random

def lastDay : Calendar.Date := (Calendar.Date.of? 2024 12 30).get (by decide)

/-- One of the days that a column is compared with. -/
structure InSpan (d : Calendar.Date) : Prop where
  firstDay_le : firstDay ≤ d
  le_lastDay : d ≤ lastDay

/-- The declared length, brought between one and eight; it is eight if none is declared, or a
negative one. -/
def declaredLimit : Option Int → Int
  | some n => if n < 0 then 8 else max 1 (min n 8)
  | none => 8

/-- One or more small letters and digits, and no more than the limit. -/
structure IsToken (limit : Int) (s : String) : Prop where
  one_le_length : 1 ≤ s.toList.length
  length_le : s.toList.length ≤ limit
  chars : ∀ x ∈ s.toList, x.isLower = true ∨ x.isDigit = true

end Generation

open Generation in
/-- The literal is one that the column may be compared with by the operator. -/
def Literal.Fits (v : Literal) (c : Column) (op : CompareOp) : Prop :=
  match c.family with
  | .integer => ∃ n, (1 ≤ n ∧ n ≤ 1000) ∧ v = .integer n
  | .decimal => ∃ k < 100000, v = .decimal (.ofRatio k 100)
  | .character =>
    if op = .like then
      ∃ s, IsToken (min 3 (declaredLimit c.maxLength)) s ∧ v = .text (s ++ "%")
    else ∃ s, IsToken (declaredLimit c.maxLength) s ∧ v = .text s
  | .boolean => ∃ b, v = .boolean b
  | .date => ∃ d, InSpan d ∧ v = .date d
  | .timestamp => ∃ d t, InSpan d ∧ t.IsWholeSecond ∧ v = .timestamp ⟨d, t⟩
  | .time => ∃ t, t.IsWholeSecond ∧ v = .time t
  | .other => ∃ s, IsToken 8 s ∧ v = .text s

namespace Generation

open SqlWorkload.Random

/-! ## Attempts at dates and times -/

namespace Strict

def date : Attempt Calendar.Date := do
  let base ← Calendar.Date.of? 2020 1 1
  base.addDays? (← .belowLong daySpan)

def time : Attempt Calendar.TimeOfDay := do
  Calendar.TimeOfDay.ofSeconds? (← .below 86400)

def literal (c : Column) (op : CompareOp) : Attempt Literal :=
  match c.family with
  | .date => return .date (← date)
  | .timestamp => do
    let day ← date
    return .timestamp ⟨day, ← time⟩
  | .time => return .time (← time)
  | _ => Unguarded.literal c op

end Strict

/-! ## Tokens -/

theorem tokenLimit_eq (c : Column) : (tokenLimit c : Int) = declaredLimit c.maxLength := by
  unfold tokenLimit declaredLimit maxToken
  match c.maxLength with
  | none => rfl
  | some (.negSucc n) => exact (if_pos (Int.negSucc_lt_zero n)).symm
  | some (.ofNat n) =>
    have hn : ¬ Int.ofNat n < 0 := Int.not_lt.2 (Int.natCast_nonneg n)
    dsimp only at hn ⊢
    rw [if_neg hn, Int.ofNat_eq_natCast]
    omega

theorem isLower_or_isDigit_of_mem_alphabet {x : Char} (h : x ∈ alphabet) :
    x.isLower = true ∨ x.isDigit = true := by
  have hall : alphabet.all (fun x => x.isLower || x.isDigit) = true := by decide
  have hx := List.all_eq_true.1 hall x h
  rwa [Bool.or_eq_true] at hx

theorem always_isToken {n : Nat} {limit : Int} (h : 1 ≤ n) (hn : n ≤ limit) :
    (token n).Always fun t => IsToken limit (String.ofList t) := by
  intro s
  have hlength : (token n s).1.length = n := Draw.length_many _ _ _
  have hchars := always_token n s
  constructor <;> rw [String.toList_ofList]
  · rwa [hlength]
  · rwa [hlength]
  · exact fun x hx => isLower_or_isDigit_of_mem_alphabet (hchars x hx)

theorem always_isToken_upTo {n : Nat} (h : 0 < n) {limit : Int} (hn : n ≤ limit) :
    (tokenUpTo n h).Always fun t => IsToken limit (String.ofList t) :=
  Draw.always_bind fun i => always_isToken (Nat.succ_pos _) (by omega)

/-! ## Dates and times -/

theorem inRange_firstDay : firstDay.inRange = true := by decide

theorem inRange_lastDay : lastDay.inRange = true := by decide

theorem addDays_firstDay_lastDay : firstDay.addDays (daySpan - 1) = lastDay := by
  -- In parts, so that the days of each can be counted off.
  have h₂₂ : firstDay.addDays 731 = .newYear 2022 := by decide +kernel
  have h₂₄ : (Calendar.Date.newYear 2022).addDays 730 = .newYear 2024 := by decide +kernel
  have hlast : (Calendar.Date.newYear 2024).addDays 364 = lastDay := by decide +kernel
  change firstDay.addDays (731 + 730 + 364) = _
  rw [Calendar.Date.addDays_add, Calendar.Date.addDays_add, h₂₂, h₂₄, hlast]

theorem inSpan_addDays (n : Fin daySpan) : InSpan (firstDay.addDays n) where
  firstDay_le := Calendar.Date.addDays_le_addDays firstDay (Nat.zero_le n)
  le_lastDay := by
    rw [← addDays_firstDay_lastDay]
    exact Calendar.Date.addDays_le_addDays firstDay (Nat.le_sub_one_of_lt n.isLt)

theorem always_inSpan : date.Always InSpan :=
  Draw.always_bind fun n => Draw.always_pure (inSpan_addDays n)

theorem isWholeSecond_ofSeconds (n : Nat) (h : n < 86400) :
    (Calendar.TimeOfDay.ofSeconds n h).IsWholeSecond :=
  ⟨rfl, Nat.mod_lt n (by decide)⟩

theorem always_isWholeSecond : time.Always (·.IsWholeSecond) :=
  Draw.always_bind fun n => Draw.always_pure (isWholeSecond_ofSeconds n n.isLt)

/-! ## Literals -/

theorem always_fits (c : Column) (op : CompareOp) : (literal c op).Always (·.Fits c op) := by
  have hlimit := tokenLimit_eq c
  unfold literal Literal.Fits
  cases c.family with
  | integer => exact Draw.always_bind fun n => Draw.always_pure ⟨_, by omega, rfl⟩
  | decimal => exact Draw.always_bind fun k => Draw.always_pure ⟨k, k.isLt, rfl⟩
  | character =>
    dsimp only
    split
    · have hpattern : ((min (tokenLimit c) maxPattern : Nat) : Int) ≤
          min 3 (declaredLimit c.maxLength) := by
        rw [← hlimit, maxPattern]
        omega
      exact (always_isToken_upTo _ hpattern).bind fun t ht =>
        Draw.always_pure ⟨_, ht, by simp [String.ofList_append]⟩
    · exact (always_isToken_upTo _ hlimit.le).bind fun t ht => Draw.always_pure ⟨_, ht, rfl⟩
  | boolean => exact Draw.always_bind fun b => Draw.always_pure ⟨b, rfl⟩
  | date => exact always_inSpan.bind fun d hd => Draw.always_pure ⟨d, hd, rfl⟩
  | timestamp =>
    exact always_inSpan.bind fun d hd => always_isWholeSecond.bind fun t ht =>
      Draw.always_pure ⟨d, t, hd, ht, rfl⟩
  | time => exact always_isWholeSecond.bind fun t ht => Draw.always_pure ⟨t, ht, rfl⟩
  | other =>
    exact (always_isToken (by decide) (by decide)).bind fun t ht => Draw.always_pure ⟨_, ht, rfl⟩

/-! ## Attempts -/

namespace Strict

open Attempt

theorem date_eq : Strict.date = lift Generation.date := by
  have hbase : Calendar.Date.of? 2020 1 1 = some firstDay := by decide
  have hpure : (liftM (some firstDay) : Attempt Calendar.Date) = pure firstDay := rfl
  rw [Strict.date, hbase, hpure, pure_bind]
  refine bind_eq_lift (belowLong_eq _) fun n => ?_
  rw [Calendar.Date.addDays?_eq_some inRange_firstDay inRange_lastDay (inSpan_addDays n).le_lastDay]
  exact pure_eq_lift _

theorem time_eq : Strict.time = lift Generation.time := by
  refine bind_eq_lift (below_eq (by decide)) fun n => ?_
  rw [Calendar.TimeOfDay.ofSeconds?, dif_pos n.isLt]
  exact pure_eq_lift _

theorem literal_eq (c : Column) (op : CompareOp) :
    Strict.literal c op = lift (Generation.literal c op) := by
  rw [← Unguarded.literal_eq]
  unfold Strict.literal Unguarded.literal
  rw [date_eq, time_eq, Unguarded.date_eq, Unguarded.time_eq]
  cases c.family <;> rfl

end Strict

/-- From every stream the attempt succeeds, with what is drawn, and that fits. -/
theorem fits_literal (c : Column) (op : CompareOp) (s : Stream) :
    ∃ v rest, Strict.literal c op s = some (v, rest) ∧ literal c op s = (v, rest) ∧
      v.Fits c op :=
  ⟨_, _, congrFun (Strict.literal_eq c op) s, rfl, always_fits c op s⟩

end Generation

end SqlWorkload
