/-!
# Binary64 numbers

The 64-bit binary floating-point format, as its three fields. A finite number has the exact
magnitude `num / den`, and arithmetic is the exact result rounded to the nearest number of the
format, a tie to the one with an even last bit.

    p.clampUnit.InUnit unless p is not a number                  (inUnit_clampUnit)
    p.InUnit → p.clampUnit = p                                   (clampUnit_eq_self)
-/

namespace SqlWorkload

/-! ## Algorithm -/

/-- The number of fractions, 2 to the power 52. -/
abbrev Binary64.fractionSize : Nat := 4503599627370496

structure Binary64 where
  negative : Bool
  /-- The biased exponent; 0 is for zero and the subnormal numbers, 2047 for what is not finite. -/
  exponent : Fin 2048
  fraction : Fin Binary64.fractionSize
deriving DecidableEq, Repr

namespace Binary64

/-- The position among the magnitudes, which are ordered as the pairs of exponent and fraction. -/
def rank (p : Binary64) : Nat := p.exponent * fractionSize + p.fraction

def infinityRank : Nat := 2047 * fractionSize

/-- The number of that sign and rank; infinity for what is beyond the largest finite rank. -/
def ofRank (negative : Bool) (rank : Nat) : Binary64 :=
  if h : rank < infinityRank then
    ⟨negative, ⟨rank / fractionSize, by simp only [infinityRank, fractionSize] at h ⊢; omega⟩,
      ⟨rank % fractionSize, Nat.mod_lt _ (by decide)⟩⟩
  else ⟨negative, 2047, 0⟩

def bits (p : Binary64) : Nat := (if p.negative then 1 <<< 63 else 0) + p.rank

def zero : Binary64 := ⟨false, 0, 0⟩

def one : Binary64 := ⟨false, 1023, 0⟩

def nan : Binary64 := ⟨false, 2047, ⟨fractionSize / 2, by decide⟩⟩

def infinity (negative : Bool) : Binary64 := ⟨negative, 2047, 0⟩

def isFinite (p : Binary64) : Bool := p.exponent < 2047

def isNaN (p : Binary64) : Bool := !p.isFinite && p.fraction != 0

def isZero (p : Binary64) : Bool := p.rank == 0

def neg (p : Binary64) : Binary64 := { p with negative := !p.negative }

/-! ### The exact value -/

/-- The integer that the fraction field stands for, its hidden bit included. -/
def significand (p : Binary64) : Nat :=
  if p.exponent = 0 then p.fraction else fractionSize + p.fraction

/-- The magnitude is `significand * 2 ^ (scale - 1074)`. -/
def scale (p : Binary64) : Nat := p.exponent - 1

/-- Numerator and denominator of the magnitude of a finite number. -/
def num (p : Binary64) : Nat := p.significand <<< (p.scale - 1074)

def den (p : Binary64) : Nat := 1 <<< (1074 - p.scale)

/-! ### Rounding -/

/-- The integer nearest to `n / d`, a tie to the even one. -/
def roundDiv (n d : Nat) : Nat :=
  let q := n / d
  let r := n % d
  if 2 * r < d then q else if d < 2 * r then q + 1 else q + q % 2

/-- The rank of the number nearest to `n / d`. The unit `2 ^ (e - 1074)` is chosen so that the
quotient has 53 bits, or less where there is no smaller unit. -/
def nearestRank (n d : Nat) : Nat :=
  if n = 0 then 0
  else
    let e := (1074 + n.log2) - (d.log2 + 53)
    let e := if (2 * fractionSize * d) <<< e ≤ n <<< 1074 then e + 1 else e
    e * fractionSize + roundDiv (n <<< 1074) (d <<< e)

/-- The number nearest to `n / d`. -/
def ofRatio (n d : Nat) : Binary64 := ofRank false (nearestRank n d)

def ofNat (n : Nat) : Binary64 := ofRatio n 1

/-- The rounded product of two finite magnitudes. -/
def mul (p r : Binary64) : Binary64 := ofRatio (p.num * r.num) (p.den * r.den)

/-- The rounded quotient of two finite magnitudes, the second not zero. -/
def div (p r : Binary64) : Binary64 := ofRatio (p.num * r.den) (p.den * r.num)

/-! ### Probabilities -/

/-- Between zero and one; a negative zero counts. -/
def InUnit (p : Binary64) : Prop := p.rank ≤ one.rank ∧ (p.negative = true → p.rank = 0)

instance (p : Binary64) : Decidable p.InUnit := inferInstanceAs (Decidable (_ ∧ _))

/-- The nearest number between zero and one. -/
def clampUnit (p : Binary64) : Binary64 :=
  if p.isNaN then p
  else if p.negative then if p.rank = 0 then p else zero
  else if one.rank < p.rank then one else p

/-- How many of the `2 ^ 64` words lie below the number; less than all for a number below one. -/
def wordsBelow (p : Binary64) : Nat := p.num * UInt64.size / p.den

/-! ## Lemmas -/

theorem inUnit_clampUnit {p : Binary64} (h : p.isNaN = false) : p.clampUnit.InUnit := by
  unfold clampUnit
  rw [if_neg (by simp [h])]
  split
  · next hn =>
    split
    · next h0 => exact ⟨by rw [h0]; exact Nat.zero_le _, fun _ => h0⟩
    · exact ⟨Nat.zero_le _, fun _ => rfl⟩
  · next hn =>
    split
    · exact ⟨Nat.le_refl _, by decide⟩
    · next h1 => exact ⟨Nat.le_of_not_lt h1, fun hn' => absurd hn' hn⟩

theorem clampUnit_eq_self {p : Binary64} (h : p.InUnit) : p.clampUnit = p := by
  unfold clampUnit
  split
  · rfl
  · split
    · next hn => rw [if_pos (h.2 hn)]
    · rw [if_neg (Nat.not_lt.2 h.1)]

theorem isNaN_of_inUnit {p : Binary64} (h : p.InUnit) : p.isNaN = false := by
  have h := h.1
  simp only [rank, one, fractionSize] at h
  have : p.exponent < 2047 := by
    rw [Fin.lt_def]
    have : ((2047 : Fin 2048) : Nat) = 2047 := rfl
    have : ((1023 : Fin 2048) : Nat) = 1023 := rfl
    have : ((0 : Fin fractionSize) : Nat) = 0 := rfl
    omega
  simp [isNaN, isFinite, this]

end Binary64

end SqlWorkload
