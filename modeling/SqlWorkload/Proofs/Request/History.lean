import SqlWorkload.Proofs.Request.Trace
import Mathlib.Logic.Relation
/-!
# What operations make of a request

A request is generated and executed by operations, in any order and as often as one likes. Each of
them is refused and changes nothing, or it moves one phase along transitions that the statuses allow
and leaves the other phase alone. So the times of a phase always fit its status, a phase that has
ended stays as it is, and the queries that are counted never exceed those that were asked for.

    what one operation can do to a request                        (Operation.apply_effect)
    a transition keeps the times of a phase in keeping with its status
                                                                  (Phase.Sound.enter)
    an operation keeps a request sound                            (Request.Sound.of_effect)
    each request that operations lead to is sound, and each operation on it is as it should be
                                                                  (Request.lawful_after)
-/

namespace SqlWorkload

/-! ## Phases -/

namespace Phase

/-- A transition that the status allows leads from one phase to the other. -/
def Moves (p q : Phase) : Prop := ∃ s now, p.transition s now = .ok q

/-- Any number of such transitions. -/
abbrev Reaches : Phase → Phase → Prop := Relation.ReflTransGen Moves

/-- The times of a phase fit its status. -/
structure Sound (p : Phase) : Prop where
  finishedAt_isSome : p.finishedAt.isSome = p.status.isTerminal
  startedAt_eq_none : p.status = .notStarted ∨ p.status = .pending → p.startedAt = none
  startedAt_isSome : p.status = .running ∨ p.status = .completed → p.startedAt.isSome = true

theorem sound_new : ({} : Phase).Sound := ⟨rfl, fun _ => rfl, by simp⟩

theorem moves_enter {p : Phase} {s : RunStatus} (h : p.status.mayBecome s = true)
    (now : Calendar.Moment) : p.Moves (p.enter s now) :=
  ⟨s, now, transition_eq_ok_iff.2 ⟨h, rfl⟩⟩

theorem Sound.enter {p : Phase} (hp : p.Sound) {s : RunStatus} (h : p.status.mayBecome s = true)
    (now : Calendar.Moment) : (p.enter s now).Sound := by
  obtain ⟨status, startedAt, finishedAt⟩ := p
  obtain ⟨hfinished, hnone, hsome⟩ := hp
  -- One goal for each pair of statuses; the pairs that are no transition contradict `h`.
  cases status <;> cases s <;> cases h
  all_goals
    constructor <;> simp_all [Phase.enter, RunStatus.isTerminal]

theorem Sound.of_reaches {p q : Phase} (hp : p.Sound) (h : p.Reaches q) : q.Sound := by
  induction h with
  | refl => exact hp
  | tail _ hmove ih =>
    obtain ⟨s, now, hs⟩ := hmove
    obtain ⟨hmay, rfl⟩ := transition_eq_ok_iff.1 hs
    exact ih.enter hmay now

theorem not_moves_of_isTerminal {p : Phase} (hp : p.status.isTerminal = true) (q : Phase) :
    ¬p.Moves q := by
  rintro ⟨s, now, hs⟩
  obtain ⟨hmay, -⟩ := transition_eq_ok_iff.1 hs
  rw [RunStatus.not_mayBecome_of_isTerminal hp] at hmay
  contradiction

/-- A phase that has ended leads nowhere. -/
theorem Reaches.eq_of_isTerminal {p q : Phase} (h : p.Reaches q)
    (hp : p.status.isTerminal = true) : q = p := by
  rcases h.cases_head with rfl | ⟨p', hmove, -⟩
  · rfl
  · exact absurd hmove (not_moves_of_isTerminal hp p')

end Phase

/-! ## Operations -/

/-- What can be done to a request. A run brings its schema, its sink and the state of the world. -/
inductive Operation : Type 1 where
  | run {σ : Type} (schema : Schema) (graph : JoinGraph) (dialect : Dialect) (sink : Sink σ)
      (state : σ)
  | beginExecution
  | recordExecuted
  | finishExecution (s : RunStatus) (error : Option String)

namespace Operation

def isRun : Operation → Bool
  | run .. => true
  | _ => false

/-- Applies an operation at a time: its answer, and the request after it. -/
def apply (r : Request) (now : Calendar.Moment) :
    Operation → Except InvalidTransition Unit × Request
  | run schema graph dialect sink state =>
    let done := r.run schema graph dialect sink now state
    (done.outcome.map fun _ => (), done.request)
  | beginExecution => r.beginExecution now
  | recordExecuted => (.ok (), r.recordExecuted)
  | finishExecution s error => r.finishExecution s error now

/-- What an operation can do to a request. -/
inductive Effect (r : Request) : Operation → Except InvalidTransition Unit → Request → Prop
  | refused (op : Operation) (e : InvalidTransition) : Effect r op (.error e) r
  | generated {σ : Type} {schema : Schema} {graph : JoinGraph} {dialect : Dialect} {sink : Sink σ}
      {state state' : σ} {calls : List SinkCall} {e : Ending} (hwaiting : r.isWaiting = true)
      (hruns : Runs schema graph dialect sink r.parameters state calls e state')
      (now : Calendar.Moment) :
      Effect r (run schema graph dialect sink state) (.ok ())
        (r.concluded (r.feeds schema graph sink state) calls e now)
  | executed {op : Operation} (hop : op.isRun = false) {p : Phase} (hp : r.execution.Reaches p)
      (count : Nat) (message : Option String) :
      Effect r op (.ok ())
        { r with execution := p, executedCount := count, errorMessage := message }

/-- A refused operation leaves the whole request as it was, and any other the phase that it is not
about. -/
structure Keeps (op : Operation) (r : Request) (done : Except InvalidTransition Unit × Request) :
    Prop where
  refused : ∀ e, done.1 = .error e → done.2 = r
  execution_of_run : op.isRun = true → done.2.execution = r.execution
  generation_of_not_run : op.isRun = false → done.2.generation = r.generation

theorem effect_beginExecution (r : Request) (now : Calendar.Moment) :
    Effect r beginExecution (r.beginExecution now).1 (r.beginExecution now).2 := by
  by_cases hnew : r.execution.status = .notStarted
  · have hpending : r.execution.status.mayBecome .pending = true := by rw [hnew]; rfl
    have hrunning : (r.execution.enter .pending now).status.mayBecome .running = true := rfl
    rw [Request.beginExecution_of_notStarted hnew]
    exact .executed rfl (.tail (.single (Phase.moves_enter hpending now))
      (Phase.moves_enter hrunning now)) _ _
  · rw [Request.beginExecution_of_started hnew]
    cases hmay : r.execution.status.mayBecome .running with
    | true =>
      rw [Request.moveExecution_of_mayBecome hmay]
      exact .executed rfl (.single (Phase.moves_enter hmay now)) _ _
    | false =>
      rw [Request.moveExecution_of_not_mayBecome hmay]
      exact .refused _ _

theorem effect_finishExecution (r : Request) (s : RunStatus) (error : Option String)
    (now : Calendar.Moment) : Effect r (finishExecution s error)
      (r.finishExecution s error now).1 (r.finishExecution s error now).2 := by
  cases hmay : r.execution.status.mayBecome s with
  | true =>
    rw [Request.finishExecution_of_mayBecome hmay]
    exact .executed rfl (.single (Phase.moves_enter hmay now)) _ _
  | false =>
    rw [Request.finishExecution_of_not_mayBecome hmay]
    exact .refused _ _

theorem apply_effect (op : Operation) (r : Request) (now : Calendar.Moment) :
    Effect r op (op.apply r now).1 (op.apply r now).2 := by
  cases op with
  | run schema graph dialect sink state =>
    cases hwaiting : r.isWaiting with
    | true =>
      obtain ⟨e, hruns, houtcome, hrequest⟩ := Request.exists_runs hwaiting schema graph dialect
        sink now state
      simp only [apply, houtcome, hrequest]
      exact .generated hwaiting hruns now
    | false =>
      simp only [apply, Request.run_of_not_isWaiting hwaiting]
      exact .refused _ _
  | beginExecution => exact effect_beginExecution r now
  | recordExecuted => exact .executed rfl .refl _ _
  | finishExecution s error => exact effect_finishExecution r s error now

theorem keeps_apply (op : Operation) (r : Request) (now : Calendar.Moment) :
    op.Keeps r (op.apply r now) := by
  have heffect := op.apply_effect r now
  revert heffect
  generalize op.apply r now = done
  obtain ⟨answer, r'⟩ := done
  intro heffect
  cases heffect with
  | refused e => exact ⟨fun _ _ => rfl, fun _ => rfl, fun _ => rfl⟩
  | generated => exact ⟨nofun, fun _ => rfl, nofun⟩
  | executed hop =>
    refine ⟨nofun, fun hrun => ?_, fun _ => rfl⟩
    rw [hop] at hrun
    contradiction

end Operation

namespace Request

/-- The request after operations at certain times, one after the other. -/
def after (r : Request) : List (Operation × Calendar.Moment) → Request
  | [] => r
  | (op, now) :: rest => (op.apply r now).2.after rest

/-- Both phases are sound, and the queries made are no more than those asked for: none while the
request waits for its generation, and all once that is completed. -/
structure Sound (r : Request) : Prop where
  generation : r.generation.Sound
  execution : r.execution.Sound
  count_of_isWaiting : r.isWaiting = true → r.generatedCount = 0
  count_le : r.generatedCount ≤ r.parameters.numQueries
  count_of_completed : r.generation.status = .completed →
    r.generatedCount = r.parameters.numQueries

/-- What holds of a request with these parameters at any time: it is sound, each operation on it
keeps what it is not about, and a phase that has ended stays as it is whatever is done later. -/
structure Lawful (r : Request) (p : Parameters) : Prop where
  sound : r.Sound
  parameters_eq : r.parameters = p
  keeps : ∀ (op : Operation) (now : Calendar.Moment), op.Keeps r (op.apply r now)
  generation_stays : r.generation.status.isTerminal = true →
    ∀ later, (r.after later).generation = r.generation
  execution_stays : r.execution.status.isTerminal = true →
    ∀ later, (r.after later).execution = r.execution

/-! ## Lemmas -/

section

variable {σ : Type} {r r' : Request} {schema : Schema} {graph : JoinGraph} {dialect : Dialect}
  {sink : Sink σ} {state state' : σ} {calls : List SinkCall} {e : Ending} {op : Operation}
  {answer : Except InvalidTransition Unit}

theorem countP_takes_of_runs
    (h : Runs schema graph dialect sink r.parameters state calls e state') :
    calls.countP (·.takes) ≤ r.parameters.numQueries ∧
      (e.status = .completed → calls.countP (·.takes) = r.parameters.numQueries) := by
  obtain ⟨-, rfl, he⟩ | ⟨g, -, htables, hg, hfed⟩ := feeds_of_runs h
  · exact ⟨Nat.zero_le _, fun hcompleted => absurd hcompleted he⟩
  · rw [← Generator.remaining_start htables hg, ← g.length_workload 1 dialect]
    exact ⟨hfed.countP_takes_le, hfed.countP_takes_of_completed⟩

theorem reaches_begun (h : r.isWaiting = true) (fed : Bool) (now : Calendar.Moment) :
    r.generation.Reaches (r.begun fed now).generation := by
  have hpending : r.generation.Reaches (r.begun false now).generation := by
    obtain ⟨_, _, _, _, _, _, ⟨status, _, _⟩, _⟩ := r
    cases status with
    | notStarted => exact .single (Phase.moves_enter rfl now)
    | pending => exact .refl
    | _ => contradiction
  cases fed with
  | false => exact hpending
  | true => exact hpending.tail (Phase.moves_enter (s := .running) rfl now)

theorem reaches_concluded (h : r.isWaiting = true)
    (hruns : Runs schema graph dialect sink r.parameters state calls e state')
    (now : Calendar.Moment) : r.generation.Reaches
      (r.concluded (r.feeds schema graph sink state) calls e now).generation := by
  refine (reaches_begun h (r.feeds schema graph sink state) now).tail
    ⟨e.status, now, Phase.transition_eq_ok_iff.2 ⟨mayBecome_of_runs hruns now, ?_⟩⟩
  cases e <;> rfl

/-- Both phases only move along transitions, and the parameters stay. -/
theorem reaches_of_effect (h : op.Effect r answer r') :
    r.generation.Reaches r'.generation ∧ r.execution.Reaches r'.execution ∧
      r'.parameters = r.parameters := by
  cases h with
  | refused => exact ⟨.refl, .refl, rfl⟩
  | generated hwaiting hruns now => exact ⟨reaches_concluded hwaiting hruns now, .refl, rfl⟩
  | executed _ hp => exact ⟨.refl, hp, rfl⟩

theorem Sound.of_effect (hr : r.Sound) (h : op.Effect r answer r') : r'.Sound := by
  obtain ⟨hgeneration, hexecution, -⟩ := reaches_of_effect h
  have hphases := And.intro (hr.generation.of_reaches hgeneration)
    (hr.execution.of_reaches hexecution)
  cases h with
  | refused => exact hr
  | @generated _ _ _ _ _ _ _ calls e hwaiting hruns now =>
    obtain ⟨hle, hcompleted⟩ := countP_takes_of_runs hruns
    have hcount (fed : Bool) : (r.concluded fed calls e now).generatedCount =
        calls.countP (·.takes) := by
      simp only [concluded, hr.count_of_isWaiting hwaiting, Nat.zero_add]
    refine ⟨hphases.1, hphases.2, fun hwaits => ?_, ?_, fun hstatus => ?_⟩
    · cases e <;> contradiction
    · rw [hcount]
      exact hle
    · exact (hcount _).trans (hcompleted hstatus)
  | executed =>
    exact ⟨hphases.1, hphases.2, hr.count_of_isWaiting, hr.count_le, hr.count_of_completed⟩

theorem Sound.after (hr : r.Sound) (history : List (Operation × Calendar.Moment)) :
    (r.after history).Sound := by
  induction history generalizing r with
  | nil => exact hr
  | cons x rest ih => exact ih (hr.of_effect (x.1.apply_effect r x.2))

theorem reaches_after (r : Request) (history : List (Operation × Calendar.Moment)) :
    r.generation.Reaches (r.after history).generation ∧
      r.execution.Reaches (r.after history).execution ∧
      (r.after history).parameters = r.parameters := by
  induction history generalizing r with
  | nil => exact ⟨.refl, .refl, rfl⟩
  | cons x rest ih =>
    obtain ⟨hgeneration, hexecution, hparameters⟩ :=
      reaches_of_effect (x.1.apply_effect r x.2)
    obtain ⟨hgeneration', hexecution', hparameters'⟩ := ih (x.1.apply r x.2).2
    exact ⟨hgeneration.trans hgeneration', hexecution.trans hexecution',
      hparameters'.trans hparameters⟩

theorem sound_ofParameters (id : Uuid) (name : String) (p : Parameters) (source : String)
    (now : Calendar.Moment) : (ofParameters id name p source now).Sound :=
  ⟨Phase.sound_new, Phase.sound_new, fun _ => rfl, Nat.zero_le _, by simp [ofParameters]⟩

end

theorem lawful_after (id : Uuid) (name : String) (p : Parameters) (source : String)
    (created : Calendar.Moment) (history : List (Operation × Calendar.Moment)) :
    ((ofParameters id name p source created).after history).Lawful p := by
  refine ⟨(sound_ofParameters id name p source created).after history,
    (reaches_after _ history).2.2, fun op now => op.keeps_apply _ now, ?_, ?_⟩
  · intro hended later
    exact (reaches_after _ later).1.eq_of_isTerminal hended
  · intro hended later
    exact (reaches_after _ later).2.1.eq_of_isTerminal hended

end Request

/-- A workload that was stopped is executed all the same, and an execution that has failed is not
begun again. -/
example :
    let r := Request.twoLogs.after
      [(.run .logs (.build .logs) .ansi (.stopAfter 1) 0, Request.twoLogs.createdAt),
        (.beginExecution, .newYear 2025), (.recordExecuted, .newYear 2025),
        (.finishExecution .failed (some "refused"), .newYear 2026),
        (.beginExecution, .newYear 2027)]
    (r.generation.status, r.generatedCount, r.execution.status, r.execution.startedAt,
        r.executedCount, r.errorMessage) =
      (.cancelled, 1, .failed, some (.newYear 2025), 1, some "refused") := by
  decide +kernel

end SqlWorkload
