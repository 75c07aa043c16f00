import SqlWorkload.Proofs.Random.Results
/-!
# Chances at the ends of the unit interval

A probability of at least one makes an event certain, and one of at most zero makes it impossible,
whatever the stream. Beyond the interval it is clamped to its end.

    one ≤ p → chance p.clampUnit is always true                   (always_true_chance)
    p ≤ zero → chance p.clampUnit is always false                 (always_false_chance)
-/

namespace SqlWorkload

namespace Binary64

/-! ## Comparison -/

/-- The rank with the sign of the number. Both zeros have the same. -/
def signedRank (p : Binary64) : Int := if p.negative then -p.rank else p.rank

/-- The order of the values. What is not a number is not comparable, not even with itself. -/
instance : LE Binary64 where
  le p r := p.isNaN = false ∧ r.isNaN = false ∧ p.signedRank ≤ r.signedRank

instance (p r : Binary64) : Decidable (p ≤ r) := inferInstanceAs (Decidable (_ ∧ _ ∧ _))

theorem eq_of_rank_eq {p r : Binary64} (hsign : p.negative = r.negative) (h : p.rank = r.rank) :
    p = r := by
  obtain ⟨sign, e, f⟩ := p
  obtain ⟨sign', e', f'⟩ := r
  simp only [rank, fractionSize] at hsign h
  have hf := f.isLt
  have hf' := f'.isLt
  rw [hsign, Fin.ext (a := e) (b := e') (by omega), Fin.ext (a := f) (b := f') (by omega)]

theorem clampUnit_eq_one {p : Binary64} (h : .one ≤ p) : p.clampUnit = .one := by
  obtain ⟨-, hnumber, hle⟩ := h
  have hone : one.signedRank = one.rank := rfl
  have hpos : 0 < one.rank := by decide
  rw [hone, signedRank] at hle
  split at hle
  · omega
  · next hsign =>
    rw [clampUnit, if_neg (by simp [hnumber]), if_neg hsign]
    split
    · rfl
    · exact eq_of_rank_eq (Bool.eq_false_iff.2 hsign) (by omega)

theorem rank_clampUnit_eq_zero {p : Binary64} (h : p ≤ .zero) : p.clampUnit.rank = 0 := by
  obtain ⟨hnumber, -, hle⟩ := h
  have hzero : zero.signedRank = 0 := rfl
  rw [hzero, signedRank] at hle
  rw [clampUnit, if_neg (by simp [hnumber])]
  split at hle
  · next hsign =>
    rw [if_pos hsign]
    split
    · assumption
    · rfl
  · next hsign =>
    rw [if_neg hsign, if_neg (by omega)]
    omega

theorem wordsBelow_eq_zero {p : Binary64} (h : p.rank = 0) : p.wordsBelow = 0 := by
  simp only [rank, fractionSize] at h
  have he : p.exponent = 0 := Fin.ext (by simp; omega)
  have hf : p.fraction.val = 0 := by omega
  have hsignificand : p.significand = 0 := (if_pos he).trans hf
  have hnum : p.num = 0 := (congrArg (· <<< _) hsignificand).trans (Nat.zero_shiftLeft _)
  rw [wordsBelow, hnum, Nat.zero_mul, Nat.zero_div]

end Binary64

namespace Random.Draw

/-! ## Draws -/

variable {p : Binary64}

theorem always_true_chance (h : .one ≤ p) : (chance p.clampUnit).Always (· = true) := by
  rw [chance, if_pos (Binary64.clampUnit_eq_one h)]
  exact always_pure rfl

theorem always_false_chance (h : p ≤ .zero) : (chance p.clampUnit).Always (· = false) := by
  have hrank := Binary64.rank_clampUnit_eq_zero h
  have hne : p.clampUnit ≠ .one := fun heq => by
    rw [heq] at hrank
    contradiction
  rw [chance, if_neg hne, Binary64.wordsBelow_eq_zero hrank]
  exact always_bind fun w => always_pure (by simp)

end Random.Draw

end SqlWorkload
