import SqlWorkload.Stored.Parameters
import SqlWorkload.Proofs.Stored.Records
/-!
# Parameters that come back from documents

Counts and seed are written as the words that they are, and read as integers with a sign. So they
come back only below half of the size of a word. What has come back is checked as it is at any other
time: checked parameters come back as they were, and others as the check leaves them.

    the parameters as a document states them                      (Stated.ofJson?_toJson)
    reading what was written is a check                           (ofJson_toJson)
    checked parameters come back if their words are not too large (ofJson_toJson_of_checked)
-/

namespace SqlWorkload.Parameters

/-- The counts and the seed are below half of the size of a word. -/
structure FitSigned (p : Parameters) : Prop where
  numQueries_lt : p.numQueries < UInt64.size / 2
  maxPredicates_lt : p.maxPredicates < UInt64.size / 2
  maxAggregates_lt : p.maxAggregates < UInt64.size / 2
  maxJoins_lt : p.maxJoins < UInt64.size / 2
  seed_lt : p.seed.toNat < UInt64.size / 2

theorem fitSigned_iff {p : Parameters} : p.FitSigned ↔
    p.numQueries < UInt64.size / 2 ∧ p.maxPredicates < UInt64.size / 2 ∧
      p.maxAggregates < UInt64.size / 2 ∧ p.maxJoins < UInt64.size / 2 ∧
      p.seed.toNat < UInt64.size / 2 :=
  ⟨fun ⟨hq, hp, ha, hj, hs⟩ => ⟨hq, hp, ha, hj, hs⟩,
    fun ⟨hq, hp, ha, hj, hs⟩ => ⟨hq, hp, ha, hj, hs⟩⟩

instance : DecidablePred FitSigned := fun _ => decidable_of_iff' _ fitSigned_iff

/-- The text of each probability is read as that probability. -/
structure Restorable (p : Parameters) : Prop where
  index : (Json.ofBinary64 p.indexHintProbability).binary64? = some p.indexHintProbability
  noIndex : (Json.ofBinary64 p.noIndexHintProbability).binary64? = some p.noIndexHintProbability
  physical : (Json.ofBinary64 p.physicalOperatorHintProbability).binary64? =
    some p.physicalOperatorHintProbability

instance : DecidablePred Restorable := fun p =>
  decidable_of_iff
    ((Json.ofBinary64 p.indexHintProbability).binary64? = some p.indexHintProbability ∧
      (Json.ofBinary64 p.noIndexHintProbability).binary64? = some p.noIndexHintProbability ∧
      (Json.ofBinary64 p.physicalOperatorHintProbability).binary64? =
        some p.physicalOperatorHintProbability)
    ⟨fun ⟨hi, hn, hp⟩ => ⟨hi, hn, hp⟩, fun ⟨hi, hn, hp⟩ => ⟨hi, hn, hp⟩⟩

/-- The parameters as integers with a sign state them. -/
def stated (p : Parameters) : Stated where
  numQueries := p.numQueries
  maxPredicates := p.maxPredicates
  maxAggregates := p.maxAggregates
  maxJoins := p.maxJoins
  seed := p.seed.toNat
  useIndexHints := p.useIndexHints
  indexHintProbability := p.indexHintProbability
  noIndexHintProbability := p.noIndexHintProbability
  usePhysicalOperatorHints := p.usePhysicalOperatorHints
  physicalOperatorHintProbability := p.physicalOperatorHintProbability

theorem checkSign_natCast (name : ParameterName) (n : Nat) : checkSign name n = .ok n := by
  rw [checkSign, if_neg (by omega), Int.toNat_natCast]

/-- Nothing is lost with a sign that is not there. -/
theorem checked_stated (p : Parameters) : p.stated.checked = p.checked := by
  simp only [Stated.checked, stated, checkSign_natCast]
  show Parameters.checked { p with seed := .ofNat p.seed.toNat } = _
  rw [UInt64.ofNat_toNat]

variable {p : Parameters}

theorem Stated.ofJson?_toJson (h : p.Restorable) :
    Stated.ofJson? p.toJson = if p.FitSigned then some p.stated else none := by
  rw [Stated.ofJson?, toJson, Json.Record.of?_record (show fieldNames.Nodup by decide) _ rfl]
  -- each count is a value or none by its size, and so are all of them together
  have hguard {α β : Type} (c : Prop) [Decidable c] (a : α) (f : α → Option β) :
      (if c then some a else none).bind f = if c then f a else none := by
    split <;> rfl
  simp only [Option.bind_eq_bind, Option.bind_some, if_true, Stated.ofRecord?, fieldOr,
    Json.Record.get?, List.lookup_cons, String.reduceBEq, Json.int64?_ofNat, Json.bool?, h.index,
    h.noIndex, h.physical, hguard, fitSigned_iff, ite_and]
  rfl

/-- What has been written is checked when it is read. -/
theorem ofJson_toJson (hx : p.Restorable) (hp : p.FitSigned) :
    ofJson p.toJson = p.checked.mapError .invalidParameters := by
  rw [ofJson, Stated.ofJson?_toJson hx, if_pos hp]
  exact congrArg (Except.mapError ReadError.invalidParameters) p.checked_stated

/-- Nothing else can keep checked parameters from coming back than the size of their words. -/
theorem ofJson_toJson_of_checked (h : p.checked = .ok p) (hx : p.Restorable) :
    ofJson p.toJson = if p.FitSigned then .ok p else .error .malformed := by
  split
  · next hp =>
    rw [ofJson_toJson hx hp, h]
    rfl
  · next hp => rw [ofJson, Stated.ofJson?_toJson hx, if_neg hp]

theorem ofJson_toJson_of_checked_plain :
    (plain 10000 9223372036854775807).FitSigned ∧
      ofJson (plain 10000 9223372036854775807).toJson = .ok (plain 10000 9223372036854775807) := by
  have hp : (plain 10000 9223372036854775807).FitSigned := by decide +kernel
  exact ⟨hp, (ofJson_toJson_of_checked (by decide +kernel) (by decide +kernel)).trans (if_pos hp)⟩

/-- With the seed one greater the parameters are in order, and written, but they cannot be read. -/
theorem not_ofJson_toJson_of_seed :
    (plain 10000 9223372036854775808).checked = .ok (plain 10000 9223372036854775808) ∧
      (plain 10000 9223372036854775808).Restorable ∧
      ofJson (plain 10000 9223372036854775808).toJson ≠ .ok (plain 10000 9223372036854775808) ∧
      ofJson (plain 10000 9223372036854775808).toJson = .error .malformed := by
  decide +kernel

end SqlWorkload.Parameters
