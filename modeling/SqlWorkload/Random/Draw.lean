import SqlWorkload.Random.Stream
import SqlWorkload.Number.Binary64
/-!
# Draws

Random choices as computations that take words from a stream. A draw below a bound has the bound in
its type, and a pick from a list asks for a proof that the list is not empty, so that no choice can
fail.

    x ∈ (many n d s).1 → ∃ t, x = (d t).1                        (mem_many)
    (many n d s).1.length = n                                     (length_many)
-/

namespace SqlWorkload.Random

/-! ## Algorithm -/

abbrev Draw := StateM Stream

namespace Draw

def word : Draw UInt32 := fun s => s.next

/-- Two words, the low half first. -/
def longWord : Draw UInt64 := do
  let low ← word
  let high ← word
  return low.toUInt64 ||| (high.toUInt64 <<< 32)

/-- The integer part of `(u + v / size) * n / size`. -/
theorem scaled_lt {size u v n : Nat} (hu : u < size) (hv : v < size) (hn : 0 < n) :
    u * n / size + (u * n % size + v * n / size) / size < n := by
  have hs : 0 < size := by omega
  have hv' : v * n / size < n := by
    rw [Nat.div_lt_iff_lt_mul hs, Nat.mul_comm n]; exact Nat.mul_lt_mul_of_pos_right hv hn
  have hu' : u * n + n ≤ n * size := by
    rw [← Nat.succ_mul, Nat.mul_comm n]; exact Nat.mul_le_mul_right n hu
  rw [← Nat.mul_add_div hs, ← Nat.add_assoc, Nat.div_add_mod, Nat.div_lt_iff_lt_mul hs]
  omega

theorem scaled_lt_of_first {size u n : Nat} (hu : u < size) (hn : 0 < n) : u * n / size < n := by
  rw [Nat.div_lt_iff_lt_mul (by omega), Nat.mul_comm n]
  exact Nat.mul_lt_mul_of_pos_right hu hn

/-- A number below `n` from words below `size`: the first word scaled down to `n`, and where what
is cut off could still carry, a second word decides whether it does. -/
def scaled (size : Nat) (draw : Draw (Fin size)) (n : Nat) (hn : 0 < n) : Draw (Fin n) := do
  let u ← draw
  if size - n < u * n % size then
    let v ← draw
    return ⟨_, scaled_lt u.isLt v.isLt hn⟩
  else return ⟨_, scaled_lt_of_first u.isLt hn⟩

/-- A number below `n`, from single words. -/
def below (n : Nat) (hn : 0 < n) : Draw (Fin n) :=
  scaled UInt32.size (return (← word).toFin) n hn

/-- A number below `n`, from long words. -/
def belowLong (n : Nat) (hn : 0 < n) : Draw (Fin n) :=
  scaled UInt64.size (return (← longWord).toFin) n hn

/-- True with probability `p`; a certain event takes no word. -/
def chance (p : Binary64) : Draw Bool :=
  if p = .one then return true else return (← longWord).toNat < p.wordsBelow

def pick {α : Type} (l : List α) (h : l ≠ []) : Draw α := do
  let i ← below l.length (List.length_pos_iff.2 h)
  return l[i]

/-- The results of `n` draws in turn. -/
def many {α : Type} : (n : Nat) → Draw α → Draw (List α)
  | 0, _ => return []
  | n + 1, d => do
    let a ← d
    let rest ← many n d
    return a :: rest

/-- Chooses one more position at a time: of the first `length - k` positions one is drawn, and if
it was taken before, the entry that took it gets the newest position in its stead. -/
def sampleMore (length : Nat) :
    (k : Nat) → k ≤ length → List (Fin length) → Draw (List (Fin length))
  | 0, _, chosen => return chosen
  | k + 1, h, chosen => do
    let newest : Fin length := ⟨length - (k + 1), by omega⟩
    let i ← below (length - k) (by omega)
    let drawn : Fin length := ⟨i, by omega⟩
    let chosen := chosen.map fun x => if x = drawn then newest else x
    sampleMore length k (by omega) (chosen ++ [drawn])

/-- A number of distinct positions below `length`. -/
def sample (length amount : Nat) (h : amount ≤ length) : Draw (List (Fin length)) :=
  sampleMore length amount h []

/-! ## Lemmas -/

theorem mem_many {α : Type} {n : Nat} {d : Draw α} {s : Stream} {x : α} (h : x ∈ (many n d s).1) :
    ∃ t, x = (d t).1 := by
  induction n generalizing s with
  | zero => exact absurd (show x ∈ [] from h) List.not_mem_nil
  | succ n ih =>
    rw [many] at h
    rcases List.mem_cons.1 (show x ∈ (d s).1 :: (many n d (d s).2).1 from h) with h | h
    · exact ⟨s, h⟩
    · exact ih h

theorem length_many {α : Type} (n : Nat) (d : Draw α) (s : Stream) :
    (many n d s).1.length = n := by
  induction n generalizing s with
  | zero => rfl
  | succ n ih => exact congrArg (· + 1) (ih (d s).2)

theorem length_sampleMore {length k : Nat} (h : k ≤ length) (chosen : List (Fin length))
    (s : Stream) : (sampleMore length k h chosen s).1.length = chosen.length + k := by
  induction k generalizing chosen s with
  | zero => rfl
  | succ k ih =>
    rw [sampleMore]
    refine (ih (by omega) _ _).trans ?_
    simp; omega

theorem length_sample {length amount : Nat} (h : amount ≤ length) (s : Stream) :
    (sample length amount h s).1.length = amount := by
  simp [sample, length_sampleMore]

end Draw

end SqlWorkload.Random
