import Mathlib.Algebra.Order.Field.Rat
import Mathlib.Tactic.Linarith
import Mathlib.Tactic.Ring
import SqlWorkload.Proofs.Random.Chances
/-!
# Exact values

The rational number that a finite number stands for. All are multiples of one unit, the smallest
subnormal number, and a number of greater rank is more units; so the order of numbers, which looks
at their fields, is that of their values, and to clamp a number is to clamp its value.

    p.rank < r.rank → p.units < r.units                           (units_lt_units)
    p ≤ r ↔ p.value ≤ r.value for finite numbers                  (le_iff_value_le)
    p.clampUnit is p clamped, in value                            (clampedFrom_clampUnit)
-/

namespace SqlWorkload.Binary64

/-! ## Definitions -/

/-- The exact value of a finite number. -/
def value (p : Binary64) : ℚ := if p.negative then -(p.num / p.den) else p.num / p.den

/-- The magnitude of a finite number, in units of the smallest subnormal number. -/
def units (p : Binary64) : Nat := p.significand * 2 ^ p.scale

/-- The unit is two to the power of minus this. -/
def unitExponent : Nat := 1074

/-- How many units make one. -/
def unitsInOne : Nat := 2 ^ unitExponent

def signedUnits (p : Binary64) : Int := if p.negative then -p.units else p.units

/-- The first number is the second, moved into the unit interval if it was not there. -/
structure ClampedFrom (r p : Binary64) : Prop where
  value_eq : p.isFinite = true → r.value = max 0 (min p.value 1)
  eq_self : p.isFinite = true → 0 ≤ p.value → p.value ≤ 1 → r = p
  of_infinity : ∀ negative, p = .infinity negative → r = if negative then .zero else .one

variable {p r : Binary64}

/-! ## Units -/

theorem scale_eq (p : Binary64) : p.scale = (p.exponent : Nat) - 1 := rfl

/-- The exponent gives the power of two up to which the units go. -/
theorem units_lt (p : Binary64) : p.units < fractionSize * 2 ^ (p.exponent : Nat) := by
  have hf := p.fraction.isLt
  unfold units significand
  split
  · next he => simp [scale_eq, he]
  · next he =>
    have hpos : (p.exponent : Nat) ≠ 0 := fun h => he (Fin.ext h)
    obtain ⟨e, hexp⟩ := Nat.exists_eq_succ_of_ne_zero hpos
    rw [scale_eq, hexp, Nat.succ_sub_one, Nat.pow_succ', ← Nat.mul_assoc]
    exact Nat.mul_lt_mul_of_pos_right (by omega) (Nat.two_pow_pos e)

theorem le_units (h : 0 < (p.exponent : Nat)) :
    fractionSize * 2 ^ ((p.exponent : Nat) - 1) ≤ p.units := by
  have he : p.exponent ≠ 0 := fun he => by simp [he] at h
  rw [units, significand, if_neg he, scale_eq]
  exact Nat.mul_le_mul_right _ (Nat.le_add_right _ _)

/-- A greater exponent is more than any fraction; with the same exponent the fractions decide. -/
theorem units_lt_units (h : p.rank < r.rank) : p.units < r.units := by
  have hp := p.fraction.isLt
  have hr := r.fraction.isLt
  unfold rank at h
  rcases Nat.lt_trichotomy (p.exponent : Nat) r.exponent with he | he | he
  · calc p.units < fractionSize * 2 ^ (p.exponent : Nat) := p.units_lt
      _ ≤ fractionSize * 2 ^ ((r.exponent : Nat) - 1) :=
        Nat.mul_le_mul_left _ (Nat.pow_le_pow_right Nat.two_pos (by omega))
      _ ≤ r.units := le_units (by omega)
  · have hfraction : (p.fraction : Nat) < r.fraction := by
      rw [he] at h
      omega
    have hsignificand : p.significand < r.significand := by
      unfold significand
      rw [Fin.ext he]
      split <;> omega
    rw [units, units, scale_eq, scale_eq, he]
    exact Nat.mul_lt_mul_of_pos_right hsignificand (Nat.two_pow_pos _)
  · have hle := Nat.mul_le_mul_right fractionSize (Nat.succ_le_of_lt he)
    rw [Nat.succ_mul] at hle
    omega

theorem rank_le_iff : p.rank ≤ r.rank ↔ p.units ≤ r.units := by
  constructor
  · intro h
    rcases Nat.lt_or_eq_of_le h with h | h
    · exact Nat.le_of_lt (units_lt_units h)
    · have heq : ({ p with negative := r.negative } : Binary64) = r := eq_of_rank_eq rfl h
      rw [← heq]
      exact Nat.le_refl p.units
  · intro h
    exact Nat.le_of_not_lt fun hlt => Nat.not_le_of_lt (units_lt_units hlt) h

theorem rank_eq_zero_iff : p.rank = 0 ↔ p.units = 0 := by
  have h : p.rank ≤ zero.rank ↔ p.units ≤ zero.units := rank_le_iff
  have hrank : zero.rank = 0 := rfl
  have hunits : zero.units = 0 := by decide
  rwa [hrank, hunits, Nat.le_zero, Nat.le_zero] at h

theorem signedRank_le_iff : p.signedRank ≤ r.signedRank ↔ p.signedUnits ≤ r.signedUnits := by
  have hpr : p.rank ≤ r.rank ↔ p.units ≤ r.units := rank_le_iff
  have hrp : r.rank ≤ p.rank ↔ r.units ≤ p.units := rank_le_iff
  have hp : p.rank = 0 ↔ p.units = 0 := rank_eq_zero_iff
  have hr : r.rank = 0 ↔ r.units = 0 := rank_eq_zero_iff
  unfold signedRank signedUnits
  split <;> split <;> omega

/-! ## Values -/

theorem unitsInOne_pos : (0 : ℚ) < unitsInOne := Nat.cast_pos.2 (Nat.two_pow_pos unitExponent)

theorem num_eq (p : Binary64) : p.num = p.significand * 2 ^ (p.scale - unitExponent) :=
  Nat.shiftLeft_eq _ _

theorem den_eq (p : Binary64) : p.den = 2 ^ (unitExponent - p.scale) :=
  (Nat.shiftLeft_eq _ _).trans (Nat.one_mul _)

theorem value_eq_signedUnits (p : Binary64) : p.value = p.signedUnits / unitsInOne := by
  have hnat : p.num * unitsInOne = p.units * p.den := by
    have hexp : p.scale - unitExponent + unitExponent = p.scale + (unitExponent - p.scale) := by
      omega
    rw [num_eq, den_eq, units, unitsInOne, Nat.mul_assoc, Nat.mul_assoc, ← Nat.pow_add,
      ← Nat.pow_add, hexp]
  have hden : 0 < p.den := by
    rw [den_eq]
    exact Nat.two_pow_pos _
  have hmagnitude : (p.num : ℚ) / p.den = p.units / unitsInOne := by
    rw [div_eq_div_iff (Nat.cast_pos.2 hden).ne' unitsInOne_pos.ne']
    exact_mod_cast hnat
  rw [value, signedUnits, hmagnitude]
  split
  · rw [Int.cast_neg, Int.cast_natCast, neg_div]
  · rw [Int.cast_natCast]

theorem isNaN_of_isFinite (h : p.isFinite = true) : p.isNaN = false := by simp [isNaN, h]

theorem le_iff_value_le (hp : p.isFinite = true) (hr : r.isFinite = true) :
    p ≤ r ↔ p.value ≤ r.value := by
  rw [value_eq_signedUnits, value_eq_signedUnits,
    div_le_div_iff_of_pos_right unitsInOne_pos, Int.cast_le, ← signedRank_le_iff]
  exact ⟨fun h => h.2.2, fun h => ⟨isNaN_of_isFinite hp, isNaN_of_isFinite hr, h⟩⟩

theorem value_eq_zero (h : p.rank = 0) : p.value = 0 := by
  rw [value_eq_signedUnits, signedUnits, rank_eq_zero_iff.1 h, Int.natCast_zero, Int.neg_zero,
    ite_self, Int.cast_zero, zero_div]

theorem value_zero : zero.value = 0 := value_eq_zero rfl

theorem value_one : one.value = 1 := by
  have hunits : one.signedUnits = unitsInOne := by decide +kernel
  rw [value_eq_signedUnits, hunits, Int.cast_natCast, div_self unitsInOne_pos.ne']

/-! ## The unit interval -/

theorem one_le_iff (hp : p.isFinite = true) : .one ≤ p ↔ 1 ≤ p.value := by
  rw [le_iff_value_le rfl hp, value_one]

theorem le_zero_iff (hp : p.isFinite = true) : p ≤ .zero ↔ p.value ≤ 0 := by
  rw [le_iff_value_le hp rfl, value_zero]

theorem inUnit_of_value (hp : p.isFinite = true) (h₀ : 0 ≤ p.value) (h₁ : p.value ≤ 1) :
    p.InUnit := by
  rw [← value_zero, ← le_iff_value_le rfl hp] at h₀
  rw [← value_one, ← le_iff_value_le hp rfl] at h₁
  have hrank₀ : (0 : Int) ≤ p.signedRank := h₀.2.2
  have hrank₁ : p.signedRank ≤ one.rank := h₁.2.2
  unfold signedRank at hrank₀ hrank₁
  by_cases hsign : p.negative
  · rw [if_pos hsign] at hrank₀
    exact ⟨by omega, fun _ => by omega⟩
  · rw [if_neg hsign] at hrank₁
    exact ⟨by omega, fun hneg => absurd hneg hsign⟩

theorem clampedFrom_clampUnit (p : Binary64) : p.clampUnit.ClampedFrom p where
  value_eq hp := by
    rcases le_total 1 p.value with h₁ | h₁
    · rw [clampUnit_eq_one ((one_le_iff hp).2 h₁), value_one, min_eq_right h₁,
        max_eq_right zero_le_one]
    rcases le_total p.value 0 with h₀ | h₀
    · rw [value_eq_zero (rank_clampUnit_eq_zero ((le_zero_iff hp).2 h₀)), min_eq_left h₁,
        max_eq_left h₀]
    · rw [clampUnit_eq_self (inUnit_of_value hp h₀ h₁), min_eq_left h₁, max_eq_right h₀]
  eq_self hp h₀ h₁ := clampUnit_eq_self (inUnit_of_value hp h₀ h₁)
  of_infinity negative h := by
    subst h
    cases negative <;> decide +kernel

end SqlWorkload.Binary64
