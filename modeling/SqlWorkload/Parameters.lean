import SqlWorkload.Number.Binary64
import SqlWorkload.Text.Digits
/-!
# Generation parameters

How many queries to generate and how large and how hinted they are. Parameters are put to use only
after a check, which also moves each probability into the unit interval.

    p.checked = .ok r → r.Valid                                   (valid_of_checked)
    p.Valid → p.checked = .ok p                                   (checked_eq_self)
-/

namespace SqlWorkload

/-! ## Algorithm -/

structure Parameters where
  numQueries : Nat := 10000
  maxPredicates : Nat := 5
  maxAggregates : Nat := 3
  maxJoins : Nat := 10
  seed : UInt64 := 1
  useIndexHints : Bool := true
  indexHintProbability : Binary64 := .ofRatio 3 10
  noIndexHintProbability : Binary64 := .ofRatio 2 10
  usePhysicalOperatorHints : Bool := true
  physicalOperatorHintProbability : Binary64 := .ofRatio 1 4
deriving DecidableEq

/-- The parameters that a check can find wrong. -/
inductive ParameterName where
  | numQueries
  | maxPredicates
  | maxAggregates
  | maxJoins
  | seed
  | indexHintProbability
  | noIndexHintProbability
  | physicalOperatorHintProbability
deriving DecidableEq, Repr

inductive ParameterError where
  | negative (name : ParameterName)
  | noQueries
  | tooMany (name : ParameterName)
  | notANumber (name : ParameterName)
deriving DecidableEq, Repr

/-- The most predicates, and the most aggregates, that a query may be asked to have. -/
def maxClauses : Nat := 64

namespace ParameterName

def text : ParameterName → String
  | numQueries => "num_queries"
  | maxPredicates => "max_predicates"
  | maxAggregates => "max_aggregates"
  | maxJoins => "max_joins"
  | seed => "seed"
  | indexHintProbability => "index_hint_probability"
  | noIndexHintProbability => "no_index_hint_probability"
  | physicalOperatorHintProbability => "physical_operator_hint_probability"

end ParameterName

def ParameterError.message : ParameterError → String
  | negative name => name.text ++ " must not be negative"
  | noQueries => "num_queries must be at least 1"
  | tooMany name => name.text ++ " must be at most " ++ String.ofList (Text.intText maxClauses)
  | notANumber name => name.text ++ " is not a number"

namespace Parameters

/-- Parameters for a workload without hints. -/
def plain (numQueries : Nat) (seed : UInt64) : Parameters :=
  { numQueries, seed, useIndexHints := false, usePhysicalOperatorHints := false }

/-- The probability in the unit interval that is nearest. -/
def checkProbability (name : ParameterName) (p : Binary64) : Except ParameterError Binary64 :=
  if p.isNaN then .error (.notANumber name) else .ok p.clampUnit

/-- The parameters with their probabilities in the unit interval; the first fault is the error. -/
def checked (p : Parameters) : Except ParameterError Parameters :=
  if p.numQueries = 0 then .error .noQueries
  else if maxClauses < p.maxPredicates then .error (.tooMany .maxPredicates)
  else if maxClauses < p.maxAggregates then .error (.tooMany .maxAggregates)
  else do
    let index ← checkProbability .indexHintProbability p.indexHintProbability
    let noIndex ← checkProbability .noIndexHintProbability p.noIndexHintProbability
    let physical ←
      checkProbability .physicalOperatorHintProbability p.physicalOperatorHintProbability
    return { p with
      indexHintProbability := index
      noIndexHintProbability := noIndex
      physicalOperatorHintProbability := physical }

structure Valid (p : Parameters) : Prop where
  numQueries_pos : 0 < p.numQueries
  maxPredicates_le : p.maxPredicates ≤ maxClauses
  maxAggregates_le : p.maxAggregates ≤ maxClauses
  index_inUnit : p.indexHintProbability.InUnit
  noIndex_inUnit : p.noIndexHintProbability.InUnit
  physical_inUnit : p.physicalOperatorHintProbability.InUnit

/-- Parameters as a document states them: counts and seed may be any integers. -/
structure Stated where
  numQueries : Int := 10000
  maxPredicates : Int := 5
  maxAggregates : Int := 3
  maxJoins : Int := 10
  seed : Int := 1
  useIndexHints : Bool := true
  indexHintProbability : Binary64 := .ofRatio 3 10
  noIndexHintProbability : Binary64 := .ofRatio 2 10
  usePhysicalOperatorHints : Bool := true
  physicalOperatorHintProbability : Binary64 := .ofRatio 1 4
deriving DecidableEq

def checkSign (name : ParameterName) (n : Int) : Except ParameterError Nat :=
  if n < 0 then .error (.negative name) else .ok n.toNat

/-- Signs are checked first, that of the seed before those of the counts, and then the rest. -/
def Stated.checked (p : Stated) : Except ParameterError Parameters := do
  let seed ← checkSign .seed p.seed
  let numQueries ← checkSign .numQueries p.numQueries
  let maxPredicates ← checkSign .maxPredicates p.maxPredicates
  let maxAggregates ← checkSign .maxAggregates p.maxAggregates
  let maxJoins ← checkSign .maxJoins p.maxJoins
  Parameters.checked
    { p with numQueries, maxPredicates, maxAggregates, maxJoins, seed := .ofNat seed }

end Parameters

/-! ## Lemmas -/

theorem bind_eq_ok_iff {ε α β : Type} {x : Except ε α} {f : α → Except ε β} {b : β} :
    (x >>= f) = .ok b ↔ ∃ a, x = .ok a ∧ f a = .ok b := by
  cases x <;> simp [bind, Except.bind]

namespace Parameters

theorem checkProbability_eq_ok_iff {name : ParameterName} {p r : Binary64} :
    checkProbability name p = .ok r ↔ p.isNaN = false ∧ p.clampUnit = r := by
  unfold checkProbability
  split
  · next h => simp [h]
  · next h => simp [h]

/-- The parameters with their probabilities moved into the unit interval. -/
def clamped (p : Parameters) : Parameters :=
  { p with
    indexHintProbability := p.indexHintProbability.clampUnit
    noIndexHintProbability := p.noIndexHintProbability.clampUnit
    physicalOperatorHintProbability := p.physicalOperatorHintProbability.clampUnit }

/-- What the check lets through, and what it makes of it. -/
theorem checked_eq_ok_iff {p r : Parameters} :
    p.checked = .ok r ↔
      (0 < p.numQueries ∧ p.maxPredicates ≤ maxClauses ∧ p.maxAggregates ≤ maxClauses ∧
        p.indexHintProbability.isNaN = false ∧ p.noIndexHintProbability.isNaN = false ∧
        p.physicalOperatorHintProbability.isNaN = false) ∧ p.clamped = r := by
  unfold checked
  split
  · next h => simp [h]
  split
  · next h => simp [Nat.not_le.2 h]
  split
  · next h => simp [Nat.not_le.2 h]
  next h₁ h₂ h₃ =>
  simp only [bind_eq_ok_iff, checkProbability_eq_ok_iff, Nat.pos_iff_ne_zero, ne_eq, h₁,
    not_false_iff, Nat.le_of_not_lt h₂, Nat.le_of_not_lt h₃, true_and]
  constructor
  · rintro ⟨a, ⟨na, rfl⟩, b, ⟨nb, rfl⟩, c, ⟨nc, rfl⟩, h⟩
    cases h
    exact ⟨⟨na, nb, nc⟩, rfl⟩
  · rintro ⟨⟨na, nb, nc⟩, rfl⟩
    exact ⟨_, ⟨na, rfl⟩, _, ⟨nb, rfl⟩, _, ⟨nc, rfl⟩, rfl⟩

theorem valid_of_checked {p r : Parameters} (h : p.checked = .ok r) : r.Valid := by
  obtain ⟨⟨hq, hp, ha, ni, nn, nph⟩, rfl⟩ := checked_eq_ok_iff.1 h
  exact ⟨hq, hp, ha, Binary64.inUnit_clampUnit ni, Binary64.inUnit_clampUnit nn,
    Binary64.inUnit_clampUnit nph⟩

theorem checkProbability_eq_self {name : ParameterName} {p : Binary64} (h : p.InUnit) :
    checkProbability name p = .ok p :=
  checkProbability_eq_ok_iff.2 ⟨Binary64.isNaN_of_inUnit h, Binary64.clampUnit_eq_self h⟩

theorem checked_eq_self {p : Parameters} (h : p.Valid) : p.checked = .ok p := by
  have h₁ := h.numQueries_pos
  rw [checked, if_neg (by omega), if_neg (Nat.not_lt.2 h.maxPredicates_le),
    if_neg (Nat.not_lt.2 h.maxAggregates_le), checkProbability_eq_self h.index_inUnit,
    checkProbability_eq_self h.noIndex_inUnit, checkProbability_eq_self h.physical_inUnit]
  rfl

end Parameters

end SqlWorkload
