import SqlWorkload.Registry
import SqlWorkload.Proofs.Analysis.Tables
import Mathlib.Data.List.Forall2
/-!
# What a registry has published

The answers to the analyses that were asked for, one after the other, are the history of a registry,
and the registry is what this history makes it: under each key stands what the last success for the
key gave. Snapshots are numbered in the order of their publication, so that no two that were
published are taken for each other.

    a call that fails leaves the registry as it is, and another changes what stands under its key
                                                                  (follows_answer)
    what stands under a key is the last success for it, or else what stood there before
                                                                  (snapshot?_analyzeAll)
    the registry after any calls is the one of its history        (recorded_analyzeAll)
-/

namespace SqlWorkload

/-! ## Histories -/

/-- A schema as an analysis under a key gives it, with its own graph. -/
structure Snapshot.Belongs (s : Snapshot) (key : String) : Prop where
  graph_eq : s.graph = .build s.schema
  source_eq : s.schema.source = key
  isAnalyzed : s.schema.isAnalyzed = true

namespace Registry

/-- An analysis that is asked for. -/
structure Call where
  key : String
  source : CatalogSource
  time : Calendar.Moment

structure Answer where
  key : String
  outcome : Except AnalysisError Publication

/-- What an answer published under a key. -/
def Answer.published? (a : Answer) (key : String) : Option Publication :=
  if a.key = key then a.outcome.toOption else none

/-- What the last success for a key gave. -/
def lastPublished? (key : String) (answers : List Answer) : Option Publication :=
  answers.reverse.findSome? (·.published? key)

/-- The answer to a call, and the registry after it. -/
def answer (r : Registry) (c : Call) : Answer × Registry :=
  let (outcome, r) := r.analyze c.key c.source c.time
  (⟨c.key, outcome⟩, r)

/-- Analyses one after the other, with their answers. -/
def analyzeAll (r : Registry) : List Call → List Answer × Registry
  | [] => ([], r)
  | c :: rest =>
    let (a, r) := r.answer c
    let (answers, r) := r.analyzeAll rest
    (a :: answers, r)

/-- An answer tells how the analysis of its call went. -/
structure Call.Answered (c : Call) (a : Answer) : Prop where
  key_eq : a.key = c.key
  outcome_eq : a.outcome.map (·.snapshot) =
    (Schema.survey c.key c.source c.time).outcome.map .ofSchema

/-- A failure changes what stands under no key, and a success only what stands under its own. -/
structure Follows (r : Registry) (a : Answer) (r' : Registry) : Prop where
  failed : ∀ e, a.outcome = .error e → ∀ key, r'.snapshot? key = r.snapshot? key
  published : ∀ p, a.outcome = .ok p →
    r'.snapshot? a.key = some p ∧ ∀ key, key ≠ a.key → r'.snapshot? key = r.snapshot? key

/-- A registry is what calls and their answers have made of a new one. -/
structure Recorded (calls : List Call) (answers : List Answer) (r : Registry) : Prop where
  answered : List.Forall₂ Call.Answered calls answers
  snapshot_eq : ∀ key, r.snapshot? key = lastPublished? key answers
  sources_sorted : r.sources.Pairwise (· < ·)
  mem_sources : ∀ key, key ∈ r.sources ↔ ∃ a ∈ answers, a.key = key ∧ ∃ p, a.outcome = .ok p
  belongs : ∀ a ∈ answers, ∀ p, a.outcome = .ok p → p.snapshot.Belongs a.key
  numbered : (answers.filterMap (·.outcome.toOption)).Pairwise (·.number < ·.number)
  follows : ∀ c, r.Follows (r.answer c).1 (r.answer c).2

/-! ## One call -/

theorem answered_answer (r : Registry) (c : Call) : c.Answered (r.answer c).1 := by
  refine ⟨rfl, ?_⟩
  simp only [answer, analyze]
  split
  · next h => rw [h]; rfl
  · next h => rw [h]; rfl

theorem snapshot?_answer (r : Registry) (c : Call) (key : String) :
    (r.answer c).2.snapshot? key = ((r.answer c).1.published? key).or (r.snapshot? key) := by
  simp only [answer, analyze, Answer.published?]
  split
  · by_cases h : c.key = key <;> simp [h, Except.toOption]
  · rw [snapshot?_publish]
    by_cases h : c.key = key <;> simp [h, Except.toOption]

theorem follows_answer (r : Registry) (c : Call) : r.Follows (r.answer c).1 (r.answer c).2 := by
  constructor
  · intro e he key
    simp [snapshot?_answer, Answer.published?, he, Except.toOption]
  · intro p hp
    refine ⟨by simp [snapshot?_answer, Answer.published?, hp, Except.toOption], fun key hkey => ?_⟩
    simp [snapshot?_answer, Answer.published?, hkey.symm]

/-- A success takes the next number. -/
theorem number_answer {r : Registry} {c : Call} {p : Publication}
    (h : (r.answer c).1.outcome = .ok p) :
    p.number = r.count ∧ (r.answer c).2.count = r.count + 1 := by
  simp only [answer, analyze] at h ⊢
  split at h
  · contradiction
  · cases h
    exact ⟨rfl, rfl⟩

theorem count_le_answer (r : Registry) (c : Call) : r.count ≤ (r.answer c).2.count := by
  simp only [answer, analyze]
  split
  · exact Nat.le_refl _
  · exact Nat.le_succ _

theorem Call.Answered.belongs {c : Call} {a : Answer} (h : c.Answered a) {p : Publication}
    (hp : a.outcome = .ok p) : p.snapshot.Belongs a.key := by
  have hsurvey := h.outcome_eq
  rw [hp] at hsurvey
  cases hs : (Schema.survey c.key c.source c.time).outcome with
  | error e => rw [hs] at hsurvey; contradiction
  | ok s =>
    rw [hs] at hsurvey
    have hsnapshot : p.snapshot = .ofSchema s := Except.ok.inj hsurvey
    obtain ⟨names, tables, -, -, rfl⟩ := Schema.survey_eq_ok_iff.1 hs
    rw [hsnapshot, h.key_eq]
    exact ⟨rfl, Schema.source_analyzed _ _ _, rfl⟩

/-! ## Any number of calls -/

theorem belongs_of_answered {calls : List Call} {answers : List Answer}
    (h : List.Forall₂ Call.Answered calls answers) :
    ∀ a ∈ answers, ∀ p, a.outcome = .ok p → p.snapshot.Belongs a.key := by
  induction h with
  | nil => simp
  | cons hc _ ih => exact List.forall_mem_cons.2 ⟨fun p hp => hc.belongs hp, ih⟩

theorem lastPublished?_cons (key : String) (a : Answer) (answers : List Answer) :
    lastPublished? key (a :: answers) = (lastPublished? key answers).or (a.published? key) := by
  rw [lastPublished?, List.reverse_cons, List.findSome?_append, List.findSome?_singleton]
  rfl

theorem snapshot?_analyzeAll (r : Registry) (calls : List Call) (key : String) :
    (r.analyzeAll calls).2.snapshot? key =
      (lastPublished? key (r.analyzeAll calls).1).or (r.snapshot? key) := by
  induction calls generalizing r with
  | nil => rfl
  | cons c rest ih =>
    simp only [analyzeAll]
    rw [ih, lastPublished?_cons, snapshot?_answer, Option.or_assoc]

theorem answered_analyzeAll (r : Registry) (calls : List Call) :
    List.Forall₂ Call.Answered calls (r.analyzeAll calls).1 := by
  induction calls generalizing r with
  | nil => exact .nil
  | cons c rest ih => exact .cons (r.answered_answer c) (ih _)

/-- From the count of the registry on, numbers are given out without repetition. -/
theorem numbered_analyzeAll (r : Registry) (calls : List Call) :
    ((r.analyzeAll calls).1.filterMap (·.outcome.toOption)).Pairwise (·.number < ·.number) ∧
      ∀ p ∈ (r.analyzeAll calls).1.filterMap (·.outcome.toOption), r.count ≤ p.number := by
  induction calls generalizing r with
  | nil => exact ⟨.nil, by simp [analyzeAll]⟩
  | cons c rest ih =>
    obtain ⟨hpairwise, hge⟩ := ih (r.answer c).2
    have hcount := r.count_le_answer c
    simp only [analyzeAll]
    cases houtcome : (r.answer c).1.outcome with
    | error e =>
      rw [List.filterMap_cons_none (by simp [houtcome, Except.toOption])]
      exact ⟨hpairwise, fun p hp => Nat.le_trans hcount (hge p hp)⟩
    | ok p =>
      obtain ⟨hnumber, hnext⟩ := number_answer houtcome
      rw [List.filterMap_cons_some (b := p) (by simp [houtcome, Except.toOption])]
      refine ⟨.cons (fun p' hp' => ?_) hpairwise, fun p' hp' => ?_⟩
      · have := hge p' hp'
        omega
      · rcases List.mem_cons.1 hp' with rfl | hp'
        · omega
        · exact Nat.le_trans hcount (hge p' hp')

theorem exists_lastPublished?_iff {key : String} {answers : List Answer} :
    (∃ p, lastPublished? key answers = some p) ↔
      ∃ a ∈ answers, a.key = key ∧ ∃ p, a.outcome = .ok p := by
  have hpublished (a : Answer) :
      (a.published? key).isSome = true ↔ a.key = key ∧ ∃ p, a.outcome = .ok p := by
    unfold Answer.published?
    split
    · next h => cases a.outcome <;> simp [Except.toOption, h]
    · next h => simp [h]
  rw [← Option.isSome_iff_exists, lastPublished?, List.findSome?_isSome_iff]
  simp only [List.mem_reverse, hpublished]

theorem recorded_analyzeAll (calls : List Call) :
    Recorded calls (({} : Registry).analyzeAll calls).1 (({} : Registry).analyzeAll calls).2 := by
  have hanswered := answered_analyzeAll {} calls
  have hlast (key : String) : (({} : Registry).analyzeAll calls).2.snapshot? key =
      lastPublished? key (({} : Registry).analyzeAll calls).1 :=
    (snapshot?_analyzeAll {} calls key).trans Option.or_none
  refine ⟨hanswered, hlast, ?_, fun key => ?_, belongs_of_answered hanswered,
    (numbered_analyzeAll {} calls).1, fun c => follows_answer _ c⟩
  · exact (OrderedMap.sorted_keys _).imp fun h => compareOfLessAndEq_eq_lt.1 h
  · rw [mem_sources_iff, ← exists_lastPublished?_iff, hlast]

end Registry

end SqlWorkload
