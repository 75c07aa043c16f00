import SqlWorkload.Generation.Generator
import SqlWorkload.Proofs.Number.Values
import SqlWorkload.Proofs.Stored.Parameters
/-!
# What the checks of parameters come to

Parameters are looked through for one fault after the other, and a document for negative numbers
before that; the first fault is the error. Parameters without a fault are kept but for their
probabilities, which are clamped, and once they have been checked another check changes nothing.

    a check of parameters gives their first fault, or clamps them (checked_eq)
    a check of stated parameters looks for signs first            (Stated.checked_eq)
    what has been read is accepted as it is                       (checkedAs_checked)
-/

namespace SqlWorkload

/-! ## Definitions -/

namespace Parameters

/-- The error alone, if there is the fault. -/
def faultIf (fault : Bool) (e : ParameterError) : List ParameterError := if fault then [e] else []

/-- The first fault or, if there is none, the parameters. -/
def unlessFaulty (faults : List ParameterError) (r : Parameters) :
    Except ParameterError Parameters :=
  match faults with
  | [] => .ok r
  | e :: _ => .error e

/-- What is wrong with parameters, in the order in which it is looked for. -/
def faults (p : Parameters) : List ParameterError :=
  faultIf (p.numQueries = 0) .noQueries ++
  faultIf (maxClauses < p.maxPredicates) (.tooMany .maxPredicates) ++
  faultIf (maxClauses < p.maxAggregates) (.tooMany .maxAggregates) ++
  faultIf p.indexHintProbability.isNaN (.notANumber .indexHintProbability) ++
  faultIf p.noIndexHintProbability.isNaN (.notANumber .noIndexHintProbability) ++
  faultIf p.physicalOperatorHintProbability.isNaN (.notANumber .physicalOperatorHintProbability)

/-- The first parameters are the second with each probability clamped, and nothing else changed. -/
structure ClampedFrom (r p : Parameters) : Prop where
  eq_with : r = { p with
    indexHintProbability := r.indexHintProbability
    noIndexHintProbability := r.noIndexHintProbability
    physicalOperatorHintProbability := r.physicalOperatorHintProbability }
  index : r.indexHintProbability.ClampedFrom p.indexHintProbability
  noIndex : r.noIndexHintProbability.ClampedFrom p.noIndexHintProbability
  physical : r.physicalOperatorHintProbability.ClampedFrom p.physicalOperatorHintProbability

/-- A check leaves the parameters as they are, and so does the start of a generator. -/
structure Accepted (r : Parameters) : Prop where
  checked_eq : r.checked = .ok r
  start_eq : ∀ schema graph,
    Generator.start schema graph r = .ok ⟨schema, graph, r, .ofSeed r.seed, 0⟩

/-- What a check of parameters comes to. -/
structure CheckedAs (p : Parameters) (x : Except ParameterError Parameters) : Prop where
  fails_iff : (∃ e, x = .error e) ↔
    p.numQueries = 0 ∨ 64 < p.maxPredicates ∨ 64 < p.maxAggregates ∨
      p.indexHintProbability.isNaN = true ∨ p.noIndexHintProbability.isNaN = true ∨
      p.physicalOperatorHintProbability.isNaN = true
  first_fault : ∀ e, x = .error e → p.faults.head? = some e
  clamped : ∀ r, x = .ok r → r.ClampedFrom p
  accepted : ∀ r, x = .ok r → r.Accepted

namespace Stated

/-- The signs that are wrong, in the order in which they are looked at. -/
def signFaults (q : Stated) : List ParameterError :=
  faultIf (q.seed < 0) (.negative .seed) ++
  faultIf (q.numQueries < 0) (.negative .numQueries) ++
  faultIf (q.maxPredicates < 0) (.negative .maxPredicates) ++
  faultIf (q.maxAggregates < 0) (.negative .maxAggregates) ++
  faultIf (q.maxJoins < 0) (.negative .maxJoins)

/-- The parameters that the numbers stand for when none of them is negative. -/
def words (q : Stated) : Parameters :=
  { q with
    numQueries := q.numQueries.toNat
    maxPredicates := q.maxPredicates.toNat
    maxAggregates := q.maxAggregates.toNat
    maxJoins := q.maxJoins.toNat
    seed := .ofNat q.seed.toNat }

/-- What a check of stated parameters comes to. -/
structure CheckedAs (q : Stated) (x : Except ParameterError Parameters) : Prop where
  fails_iff : (∃ e, x = .error e) ↔
    q.seed < 0 ∨ q.numQueries < 0 ∨ q.maxPredicates < 0 ∨ q.maxAggregates < 0 ∨ q.maxJoins < 0 ∨
      ∃ e, q.words.checked = .error e
  first_fault : ∀ e, x = .error e → (q.signFaults ++ q.words.faults).head? = some e
  checked_words : ∀ r, x = .ok r → q.words.checked = .ok r
  stated_words : ∀ r, x = .ok r → q.seed < UInt64.size → q.words.stated = q
  accepted : ∀ r, x = .ok r → r.Accepted

end Stated

end Parameters

/-! ## Parameters -/

namespace Parameters

theorem clampedFrom_clamped (p : Parameters) : p.clamped.ClampedFrom p :=
  ⟨rfl, Binary64.clampedFrom_clampUnit _, Binary64.clampedFrom_clampUnit _,
    Binary64.clampedFrom_clampUnit _⟩

section

variable {l m : List ParameterError} {fault : Bool} {e : ParameterError} {p r : Parameters}

theorem unlessFaulty_faultIf_append (fault : Bool) (e : ParameterError) (l : List ParameterError)
    (p : Parameters) :
    unlessFaulty (faultIf fault e ++ l) p = if fault then .error e else unlessFaulty l p := by
  cases fault <;> rfl

theorem unlessFaulty_eq_error_iff : unlessFaulty l p = .error e ↔ l.head? = some e := by
  cases l <;> simp [unlessFaulty]

theorem unlessFaulty_eq_ok_iff : unlessFaulty l p = .ok r ↔ l = [] ∧ p = r := by
  cases l <;> simp [unlessFaulty]

theorem exists_unlessFaulty_eq_error_iff : (∃ e, unlessFaulty l p = .error e) ↔ l ≠ [] := by
  cases l <;> simp [unlessFaulty]

theorem faultIf_append_ne_nil_iff : faultIf fault e ++ l ≠ [] ↔ fault = true ∨ l ≠ [] := by
  cases fault <;> simp [faultIf]

end

/-- The first fault is the error, and without a fault the probabilities are clamped. -/
theorem checked_eq (p : Parameters) : p.checked = unlessFaulty p.faults p.clamped := by
  rw [← List.append_nil p.faults]
  simp only [faults, List.append_assoc, unlessFaulty_faultIf_append, decide_eq_true_eq]
  unfold checked checkProbability
  split
  · rfl
  split
  · rfl
  split
  · rfl
  cases p.indexHintProbability.isNaN <;> cases p.noIndexHintProbability.isNaN <;>
    cases p.physicalOperatorHintProbability.isNaN <;> rfl

theorem faults_ne_nil_iff {p : Parameters} :
    p.faults ≠ [] ↔ p.numQueries = 0 ∨ maxClauses < p.maxPredicates ∨
      maxClauses < p.maxAggregates ∨ p.indexHintProbability.isNaN = true ∨
      p.noIndexHintProbability.isNaN = true ∨ p.physicalOperatorHintProbability.isNaN = true := by
  rw [← List.append_nil p.faults]
  simp only [faults, List.append_assoc, faultIf_append_ne_nil_iff, decide_eq_true_eq, ne_eq,
    not_true, or_false]

theorem accepted_of_checked {p r : Parameters} (h : p.checked = .ok r) : r.Accepted := by
  have hr : r.checked = .ok r := checked_eq_self (valid_of_checked h)
  refine ⟨hr, fun schema graph => ?_⟩
  rw [Generator.start, hr]
  rfl

theorem checkedAs (p : Parameters) : p.CheckedAs p.checked where
  fails_iff := by
    rw [checked_eq, exists_unlessFaulty_eq_error_iff]
    exact faults_ne_nil_iff
  first_fault e h := unlessFaulty_eq_error_iff.1 (p.checked_eq ▸ h)
  clamped r h := (checked_eq_ok_iff.1 h).2 ▸ clampedFrom_clamped p
  accepted r := accepted_of_checked

/-! ## Stated parameters -/

namespace Stated

/-- Wrong signs are faults before all others. -/
theorem checked_eq (q : Stated) :
    q.checked = unlessFaulty (q.signFaults ++ q.words.faults) q.words.clamped := by
  simp only [signFaults, List.append_assoc, unlessFaulty_faultIf_append, decide_eq_true_eq,
    ← Parameters.checked_eq]
  unfold Stated.checked checkSign
  split
  · rfl
  split
  · rfl
  split
  · rfl
  split
  · rfl
  split
  · rfl
  rfl

theorem signFaults_ne_nil_iff {q : Stated} :
    q.signFaults ≠ [] ↔ q.seed < 0 ∨ q.numQueries < 0 ∨ q.maxPredicates < 0 ∨
      q.maxAggregates < 0 ∨ q.maxJoins < 0 := by
  rw [← List.append_nil q.signFaults]
  simp only [signFaults, List.append_assoc, faultIf_append_ne_nil_iff, decide_eq_true_eq, ne_eq,
    not_true, or_false]

/-- Numbers that are not negative are what they stand for. -/
theorem stated_words {q : Stated} (h : q.signFaults = []) (hseed : q.seed < UInt64.size) :
    q.words.stated = q := by
  have hsigns := mt signFaults_ne_nil_iff.2 (not_not.2 h)
  simp only [not_or, Int.not_lt] at hsigns
  obtain ⟨hs, hq, hp, ha, hj⟩ := hsigns
  have hword : (UInt64.ofNat q.seed.toNat).toNat = q.seed.toNat :=
    UInt64.toNat_ofNat_of_lt' (by omega)
  simp only [words, stated, hword, Int.toNat_of_nonneg, hs, hq, hp, ha, hj]

theorem ok_iff {q : Stated} {r : Parameters} :
    q.checked = .ok r ↔ q.signFaults = [] ∧ q.words.checked = .ok r := by
  rw [checked_eq, Parameters.checked_eq, unlessFaulty_eq_ok_iff, unlessFaulty_eq_ok_iff,
    List.append_eq_nil_iff, and_assoc]

theorem checkedAs (q : Stated) : q.CheckedAs q.checked where
  fails_iff := by
    have happend : q.signFaults ++ q.words.faults ≠ [] ↔
        q.signFaults ≠ [] ∨ q.words.faults ≠ [] := by
      simp only [ne_eq, List.append_eq_nil_iff, not_and_or]
    rw [checked_eq, Parameters.checked_eq, exists_unlessFaulty_eq_error_iff,
      exists_unlessFaulty_eq_error_iff, happend, signFaults_ne_nil_iff]
    simp only [or_assoc]
  first_fault e h := unlessFaulty_eq_error_iff.1 (q.checked_eq ▸ h)
  checked_words r h := (ok_iff.1 h).2
  stated_words r h := stated_words (ok_iff.1 h).1
  accepted r h := accepted_of_checked (ok_iff.1 h).2

end Stated

theorem mapError_eq_ok_iff {ε ε' α : Type} {f : ε → ε'} {x : Except ε α} {a : α} :
    x.mapError f = .ok a ↔ x = .ok a := by
  cases x <;> simp [Except.mapError]

/-- What has been read from a text has passed the check of what the text states. -/
theorem exists_stated_of_ofText {s : String} {r : Parameters} (h : ofText s = .ok r) :
    ∃ q : Stated, q.checked = .ok r := by
  unfold ofText at h
  generalize Json.read s = read at h
  obtain ⟨j, alone⟩ := read
  obtain ⟨p, hp, h⟩ := bind_eq_ok_iff.1 h
  unfold ofJson at hp
  cases hj : Stated.ofJson? j with
  | none => rw [hj] at hp; contradiction
  | some q =>
    rw [hj] at hp
    cases alone with
    | false => contradiction
    | true => exact ⟨q, (mapError_eq_ok_iff.1 hp).trans (congrArg _ (Except.ok.inj h))⟩

/-- Checks come to what they should, and what they let through needs no other check. -/
theorem checkedAs_checked :
    (∀ p : Parameters, p.CheckedAs p.checked) ∧ (∀ q : Stated, q.CheckedAs q.checked) ∧
      ∀ s r, ofText s = .ok r → r.Accepted := by
  refine ⟨Parameters.checkedAs, Stated.checkedAs, fun s r h => ?_⟩
  obtain ⟨q, hq⟩ := exists_stated_of_ofText h
  exact q.checkedAs.accepted r hq

/-- A text with a probability that is too large. -/
def sketch : String := "\x7b\"seed\": 3, \"index_hint_probability\": 1.5\x7d"

theorem checkedAs_checked_sketch :
    ∃ r, ofText sketch = .ok r ∧ r.indexHintProbability = .one ∧ r.Accepted := by
  have hread : (ofText sketch).toOption.map (·.indexHintProbability) = some .one := by
    decide +kernel
  cases h : ofText sketch with
  | error e =>
    rw [h] at hread
    contradiction
  | ok r =>
    rw [h] at hread
    exact ⟨r, rfl, Option.some.inj hread, checkedAs_checked.2.2 sketch r h⟩

end Parameters

end SqlWorkload
