import SqlWorkload.Proofs.Generation.Queries
import SqlWorkload.Request.Run
/-!
# The calls that a run makes of its sink

A sink is observed by another that does the same and notes each call, its answer, and whether the
run is to stop after it. `Feeds` and `Runs` derive the calls of a run, its ending and the state in
which it leaves the sink. Every run is so derived, and observing it changes nothing but the notes.

    the workload has each query of the generator at its place, with a number and its text
                                                              (Generator.getElem?_workload)
    the loop over the queries makes the calls of a `Feeds`, and ends as it does   (exists_feeds)
    a run makes the calls of a `Runs`, and ends as it does                        (exists_runs)
    an observed run is the run itself, with its calls noted                       (run_observed)
-/

namespace SqlWorkload

/-! ## Calls -/

/-- A call of a sink with its answer; for a query, whether the run is to stop after it. -/
inductive SinkCall where
  | accept (q : GeneratedQuery) (answer : Except GenerationError Unit) (raised : Bool)
  | finish (answer : Except GenerationError Unit)
deriving DecidableEq

namespace SinkCall

def query? : SinkCall → Option GeneratedQuery
  | accept q _ _ => some q
  | finish _ => none

def error? : SinkCall → Option GenerationError
  | accept _ (.error e) _ | finish (.error e) => some e
  | accept _ (.ok ()) _ | finish (.ok ()) => none

/-- Whether the call left the wish to stop behind. -/
def raised : SinkCall → Bool
  | accept _ _ raised => raised
  | finish _ => false

/-- Whether a query was taken. -/
def takes : SinkCall → Bool
  | accept _ (.ok ()) _ => true
  | _ => false

section

variable (q : GeneratedQuery) (answer : Except GenerationError Unit) (e : GenerationError)
  (b : Bool)

@[simp] theorem query?_accept : (accept q answer b).query? = some q := rfl

@[simp] theorem query?_finish : (finish answer).query? = none := rfl

@[simp] theorem error?_accept_error : (accept q (.error e) b).error? = some e := rfl

@[simp] theorem error?_accept_ok : (accept q (.ok ()) b).error? = none := rfl

@[simp] theorem error?_finish_error : (finish (.error e)).error? = some e := rfl

@[simp] theorem error?_finish_ok : (finish (.ok ())).error? = none := rfl

@[simp] theorem raised_accept : (accept q answer b).raised = b := rfl

@[simp] theorem raised_finish : (finish answer).raised = false := rfl

@[simp] theorem takes_accept_error : (accept q (.error e) b).takes = false := rfl

@[simp] theorem takes_accept_ok : (accept q (.ok ()) b).takes = true := rfl

@[simp] theorem takes_finish : (finish answer).takes = false := rfl

end

end SinkCall

variable {σ : Type}

/-- A sink that does what another does, and notes the calls. -/
def Sink.observed (sink : Sink σ) : Sink (σ × List SinkCall) where
  accept q s :=
    let (answer, state) := sink.accept q s.1
    (answer, state, s.2 ++ [.accept q answer (sink.isCancelled state)])
  finish s :=
    let (answer, state) := sink.finish s.1
    (answer, state, s.2 ++ [.finish answer])
  isCancelled s := sink.isCancelled s.1

/-- The calls that a run makes. -/
def Request.calls (r : Request) (schema : Schema) (graph : JoinGraph) (dialect : Dialect)
    (sink : Sink σ) (now : Calendar.Moment) (state : σ) : List SinkCall :=
  (r.run schema graph dialect sink.observed now (state, [])).state.2

/-! ## Endings -/

inductive Ending where
  | completed
  | cancelled
  | failed (e : GenerationError)
deriving DecidableEq

namespace Ending

def status : Ending → RunStatus
  | completed => .completed
  | cancelled => .cancelled
  | failed _ => .failed

def error? : Ending → Option GenerationError
  | failed e => some e
  | _ => none

/-- The ending that a sink leaves of another when it is finished. -/
def closedWith (e : Ending) : Except GenerationError Unit → Ending
  | .ok () => e
  | .error err => failed err

end Ending

namespace Request

/-- Ends a run that has taken so many more queries. -/
def ended (r : Request) (e : Ending) (now : Calendar.Moment) (state : σ) : Run σ :=
  match e with
  | .completed => r.completed now state
  | .cancelled => r.cancelled now state
  | .failed err => r.failed err now state

def counting (r : Request) (calls : List SinkCall) : Request :=
  { r with generatedCount := r.generatedCount + calls.countP (·.takes) }

end Request

/-! ## The loop -/

/-- The queries of a generator with their texts, numbered one after the other from `index` on. -/
def Generator.workload (g : Generator) (index : Nat) (dialect : Dialect) : List GeneratedQuery :=
  g.queries.mapIdx fun i q => { index := index + i, sql := dialect.render q, query := q }

theorem Generator.getElem?_workload {g : Generator} {index : Nat} {dialect : Dialect} {i : Nat}
    {x : GeneratedQuery} : (g.workload index dialect)[i]? = some x ↔
      x.index = index + i ∧ x.sql = dialect.render x.query ∧ g.queries[i]? = some x.query := by
  rw [workload, List.getElem?_mapIdx, Option.map_eq_some_iff]
  constructor
  · rintro ⟨q, hq, rfl⟩
    exact ⟨rfl, rfl, hq⟩
  · rintro ⟨hindex, hsql, hq⟩
    refine ⟨x.query, hq, ?_⟩
    rw [← hindex, ← hsql]

theorem Generator.length_workload (g : Generator) (index : Nat) (dialect : Dialect) :
    (g.workload index dialect).length = g.remaining := by
  rw [workload, List.length_mapIdx, queries, length_take, Nat.min_self]

theorem Generator.workload_of_next {g g' : Generator} {q : Query} (h : g.next? = some (q, g'))
    (index : Nat) (dialect : Dialect) :
    g.workload index dialect = q.numbered index dialect :: g'.workload (index + 1) dialect := by
  have hindex : (fun i (q : Query) =>
        ({ index := index + (i + 1), sql := dialect.render q, query := q } : GeneratedQuery)) =
      fun i q => { index := index + 1 + i, sql := dialect.render q, query := q } := by
    funext i
    rw [Nat.add_comm i, Nat.add_assoc]
  rw [workload, queries_of_next h, List.mapIdx_cons, hindex]
  rfl

/-- Feeding a sink with queries from a state: the calls, the ending, and the state after them. -/
inductive Feeds (sink : Sink σ) : List GeneratedQuery → σ → List SinkCall → Ending → σ → Prop
  | finished {state state' : σ} {answer : Except GenerationError Unit}
      (h : sink.finish state = (answer, state')) :
      Feeds sink [] state [.finish answer] (Ending.completed.closedWith answer) state'
  | stopped {q : GeneratedQuery} {rest : List GeneratedQuery} {state state' : σ}
      {answer : Except GenerationError Unit} (hup : sink.isCancelled state = true)
      (h : sink.finish state = (answer, state')) :
      Feeds sink (q :: rest) state [.finish answer] (Ending.cancelled.closedWith answer) state'
  | refused {q : GeneratedQuery} {rest : List GeneratedQuery} {state state' : σ}
      {e : GenerationError} (hdown : sink.isCancelled state = false)
      (h : sink.accept q state = (.error e, state')) :
      Feeds sink (q :: rest) state [.accept q (.error e) (sink.isCancelled state')] (.failed e)
        state'
  | taken {q : GeneratedQuery} {rest : List GeneratedQuery} {state state' state'' : σ}
      {calls : List SinkCall} {e : Ending} (hdown : sink.isCancelled state = false)
      (h : sink.accept q state = (.ok (), state')) (tail : Feeds sink rest state' calls e state'') :
      Feeds sink (q :: rest) state (.accept q (.ok ()) (sink.isCancelled state') :: calls) e state''

namespace Request

theorem close_of_finish {sink : Sink σ} {state state' : σ} {answer : Except GenerationError Unit}
    (h : sink.finish state = (answer, state')) (r : Request) (now : Calendar.Moment) (e : Ending) :
    r.close sink now state (fun r now state => r.ended e now state) =
      r.ended (e.closedWith answer) now state' := by
  unfold close
  rw [h]
  cases answer <;> rfl

theorem finish_observed {sink : Sink σ} {state state' : σ} {answer : Except GenerationError Unit}
    (h : sink.finish state = (answer, state')) (l : List SinkCall) :
    sink.observed.finish (state, l) = (answer, state', l ++ [.finish answer]) := by
  simp only [Sink.observed, h]

theorem accept_observed {sink : Sink σ} {q : GeneratedQuery} {state state' : σ}
    {answer : Except GenerationError Unit} (h : sink.accept q state = (answer, state'))
    (l : List SinkCall) : sink.observed.accept q (state, l) =
      (answer, state', l ++ [.accept q answer (sink.isCancelled state')]) := by
  simp only [Sink.observed, h]

theorem counting_taken (r : Request) (q : GeneratedQuery) (b : Bool) (calls : List SinkCall) :
    r.counting (.accept q (.ok ()) b :: calls) =
      { r with generatedCount := r.generatedCount + 1 }.counting calls := by
  have hcount : r.generatedCount + (calls.countP (·.takes) + 1) =
      r.generatedCount + 1 + calls.countP (·.takes) := by omega
  simp only [counting, List.countP_cons, SinkCall.takes_accept_ok, if_true, hcount]

/-- The induction is on the number of queries that are left, one step for each query. -/
theorem exists_feeds (sink : Sink σ) (dialect : Dialect) (now : Calendar.Moment) {n : Nat}
    {g : Generator} (hn : g.remaining = n) (index : Nat) (r : Request) (state : σ)
    (l : List SinkCall) :
    ∃ calls e state', Feeds sink (g.workload index dialect) state calls e state' ∧
      feed sink dialect now n g index r state = (r.counting calls).ended e now state' ∧
      feed sink.observed dialect now n g index r (state, l) =
        (r.counting calls).ended e now (state', l ++ calls) := by
  induction n generalizing g index r state l with
  | zero =>
    obtain ⟨⟨answer, state'⟩, h⟩ : ∃ x, sink.finish state = x := ⟨_, rfl⟩
    have hw : g.workload index dialect = [] := by rw [Generator.workload, g.queries_eq_nil hn]; rfl
    refine ⟨[.finish answer], Ending.completed.closedWith answer, state', ?_, ?_, ?_⟩
    · rw [hw]
      exact .finished h
    · exact close_of_finish h r now .completed
    · exact close_of_finish (finish_observed h l) r now .completed
  | succ n ih =>
    obtain ⟨⟨q, g'⟩, hnext⟩ : ∃ x, g.next? = some x := by
      rw [← Option.isSome_iff_exists, Option.isSome_iff_ne_none, Ne, Generator.next?_eq_none_iff]
      omega
    have hn' : g'.remaining = n := by
      have := Generator.remaining_next hnext
      omega
    rw [Generator.workload_of_next hnext]
    simp only [feed, hnext]
    cases hflag : sink.isCancelled state with
    | true =>
      obtain ⟨⟨answer, state'⟩, h⟩ : ∃ x, sink.finish state = x := ⟨_, rfl⟩
      refine ⟨[.finish answer], Ending.cancelled.closedWith answer, state', .stopped hflag h, ?_,
        ?_⟩
      · exact close_of_finish h r now .cancelled
      · rw [if_pos (show sink.observed.isCancelled (state, l) = true from hflag)]
        exact close_of_finish (finish_observed h l) r now .cancelled
    | false =>
      have hflag' : ¬sink.observed.isCancelled (state, l) = true := by simp [Sink.observed, hflag]
      rw [if_neg hflag']
      obtain ⟨⟨answer, state'⟩, h⟩ : ∃ x, sink.accept (q.numbered index dialect) state = x :=
        ⟨_, rfl⟩
      rw [h, accept_observed h l]
      cases answer with
      | error e => exact ⟨_, .failed e, state', .refused hflag h, rfl, rfl⟩
      | ok taken =>
        cases taken
        obtain ⟨calls, e, state'', tail, hfeed, hobserved⟩ := ih hn' (index + 1)
          { r with generatedCount := r.generatedCount + 1 } state'
          (l ++ [.accept (q.numbered index dialect) (.ok ()) (sink.isCancelled state')])
        have hcount := r.counting_taken (q.numbered index dialect) (sink.isCancelled state') calls
        refine ⟨_, e, state'', .taken hflag h tail, ?_, ?_⟩
        · rw [hcount]
          exact hfeed
        · rw [hcount]
          exact hobserved.trans (by rw [List.append_assoc]; rfl)

end Request

/-! ## Runs -/

/-- A run with such parameters from a state: its calls, its ending, and the state after it. -/
inductive Runs (schema : Schema) (graph : JoinGraph) (dialect : Dialect) (sink : Sink σ)
    (p : Parameters) (state : σ) : List SinkCall → Ending → σ → Prop
  | cancelled (hup : sink.isCancelled state = true) :
      Runs schema graph dialect sink p state [] .cancelled state
  | empty (hdown : sink.isCancelled state = false) (hempty : schema.isEmpty = true) :
      Runs schema graph dialect sink p state [] (.failed (.emptySchema schema.source)) state
  | invalid {e : ParameterError} (hdown : sink.isCancelled state = false)
      (htables : schema.isEmpty = false) (he : Generator.start schema graph p = .error e) :
      Runs schema graph dialect sink p state [] (.failed (.invalidParameters e)) state
  | fed {g : Generator} {calls : List SinkCall} {e : Ending} {state' : σ}
      (hdown : sink.isCancelled state = false) (htables : schema.isEmpty = false)
      (hg : Generator.start schema graph p = .ok g)
      (hfeeds : Feeds sink (g.workload 1 dialect) state calls e state') :
      Runs schema graph dialect sink p state calls e state'

namespace Request

/-- Whether the generation of the request may begin. -/
def isWaiting (r : Request) : Bool :=
  r.generation.status = .notStarted || r.generation.status = .pending

/-- A run feeds the sink if nobody asked to stop before it, and schema and parameters are fit. -/
def feeds (r : Request) (schema : Schema) (graph : JoinGraph) (sink : Sink σ) (state : σ) : Bool :=
  !sink.isCancelled state && !schema.isEmpty && (Generator.start schema graph r.parameters).isOk

/-- The request at the end of its waiting, and if the sink is fed, in its generation. -/
def begun (r : Request) (fed : Bool) (now : Calendar.Moment) : Request :=
  { r with
    generation :=
      { r.generation with
        status := if fed then .running else .pending
        startedAt := if fed then some now else r.generation.startedAt } }

/-- The request after a run. -/
def concluded (r : Request) (fed : Bool) (calls : List SinkCall) (e : Ending)
    (now : Calendar.Moment) : Request :=
  { r with
    generatedCount := r.generatedCount + calls.countP (·.takes)
    generation :=
      { status := e.status
        startedAt := if fed then some now else r.generation.startedAt
        finishedAt := some now }
    errorMessage := (e.error?.map (·.message)).or r.errorMessage }

section

variable {r : Request} {schema : Schema} {graph : JoinGraph} {dialect : Dialect} {sink : Sink σ}
  {now : Calendar.Moment} {state : σ}

theorem feeds_of_isCancelled (h : sink.isCancelled state = true) :
    r.feeds schema graph sink state = false := by
  simp [feeds, h]

theorem feeds_of_isEmpty (h : schema.isEmpty = true) :
    r.feeds schema graph sink state = false := by
  simp [feeds, h]

theorem feeds_of_start_error {e : ParameterError}
    (h : Generator.start schema graph r.parameters = .error e) :
    r.feeds schema graph sink state = false := by
  simp [feeds, h, Except.isOk, Except.toBool]

theorem feeds_of_start_ok {g : Generator} (hdown : sink.isCancelled state = false)
    (htables : schema.isEmpty = false) (hg : Generator.start schema graph r.parameters = .ok g) :
    r.feeds schema graph sink state = true := by
  simp [feeds, hdown, htables, hg, Except.isOk, Except.toBool]

theorem run_eq_runPending (h : r.isWaiting) :
    r.run schema graph dialect sink now state =
      (r.begun false now).runPending schema graph dialect sink now state := by
  unfold run
  split
  · next hnew =>
    have hbegun : { r with generation := r.generation.enter .pending now } = r.begun false now :=
      rfl
    rw [advance_of_mayBecome (by rw [hnew]; rfl), hbegun]
  · next hold =>
    have hpending : r.generation.status = .pending := by simpa [isWaiting, hold] using h
    have hbegun : r.begun false now = r := by
      obtain ⟨_, _, _, _, _, _, ⟨_, _, _⟩, _⟩ := r
      cases hpending
      rfl
    rw [hbegun]

/-- From the end of its waiting a run goes through one of four derivations. -/
theorem runPending_begun (r : Request) (schema : Schema) (graph : JoinGraph) (dialect : Dialect)
    (sink : Sink σ) (now : Calendar.Moment) (state : σ) (l : List SinkCall) : ∃ calls e state',
    Runs schema graph dialect sink r.parameters state calls e state' ∧
      (r.begun false now).runPending schema graph dialect sink now state =
        ((r.begun (r.feeds schema graph sink state) now).counting calls).ended e now state' ∧
      (r.begun false now).runPending schema graph dialect sink.observed now (state, l) =
        ((r.begun (r.feeds schema graph sink state) now).counting calls).ended e now
          (state', l ++ calls) := by
  have hpending : ¬(r.begun false now).generation.status ≠ .pending := by simp [begun]
  simp only [runPending, if_neg hpending]
  cases hflag : sink.isCancelled state with
  | true =>
    rw [feeds_of_isCancelled hflag]
    refine ⟨[], .cancelled, state, .cancelled hflag, rfl, ?_⟩
    rw [if_pos (show sink.observed.isCancelled (state, l) = true from hflag), List.append_nil]
    rfl
  | false =>
    have hflag' : ¬sink.observed.isCancelled (state, l) = true := by simp [Sink.observed, hflag]
    rw [if_neg hflag']
    cases hempty : schema.isEmpty with
    | true =>
      rw [feeds_of_isEmpty hempty]
      refine ⟨[], .failed (.emptySchema schema.source), state, .empty hflag hempty, rfl, ?_⟩
      rw [List.append_nil]
      rfl
    | false =>
      have hparams : (r.begun false now).parameters = r.parameters := rfl
      rw [hparams]
      cases hg : Generator.start schema graph r.parameters with
      | error e =>
        rw [feeds_of_start_error hg]
        refine ⟨[], .failed (.invalidParameters e), state, .invalid hflag hempty hg, rfl, ?_⟩
        rw [List.append_nil]
        rfl
      | ok g =>
        rw [feeds_of_start_ok hflag hempty hg]
        obtain ⟨calls, e, state', h, hfeed, hobserved⟩ :=
          exists_feeds sink dialect now rfl 1 (r.begun true now) state l
        have hmay : (r.begun false now).generation.status.mayBecome .running = true := rfl
        have hbegun : { r.begun false now with
            generation := (r.begun false now).generation.enter .running now } =
            r.begun true now := rfl
        refine ⟨calls, e, state', .fed hflag hempty hg h, ?_, ?_⟩
        · simp only [Bool.false_eq_true, if_false]
          rw [advance_of_mayBecome hmay, hbegun]
          exact hfeed
        · simp only [Bool.false_eq_true, if_false]
          rw [advance_of_mayBecome hmay, hbegun]
          exact hobserved

/-- A run that does not feed its sink makes no calls and is not completed; one that does goes
through a `Feeds`. -/
theorem feeds_of_runs {calls : List SinkCall} {e : Ending} {state' : σ}
    (h : Runs schema graph dialect sink r.parameters state calls e state') :
    (r.feeds schema graph sink state = false ∧ calls = [] ∧ e.status ≠ .completed) ∨
      ∃ g : Generator, r.feeds schema graph sink state = true ∧
        schema.isEmpty = false ∧ Generator.start schema graph r.parameters = .ok g ∧
          Feeds sink (g.workload 1 dialect) state calls e state' := by
  cases h with
  | cancelled hup => exact .inl ⟨feeds_of_isCancelled hup, rfl, by decide⟩
  | empty hdown hempty => exact .inl ⟨feeds_of_isEmpty hempty, rfl, by simp [Ending.status]⟩
  | invalid hdown htables he => exact .inl ⟨feeds_of_start_error he, rfl, by simp [Ending.status]⟩
  | @fed g _ _ _ hdown htables hg hfeeds =>
    exact .inr ⟨g, feeds_of_start_ok hdown htables hg, htables, hg, hfeeds⟩

theorem mayBecome_of_runs {calls : List SinkCall} {e : Ending} {state' : σ}
    (h : Runs schema graph dialect sink r.parameters state calls e state')
    (now : Calendar.Moment) : ((r.begun (r.feeds schema graph sink state) now).counting
      calls).generation.status.mayBecome e.status = true := by
  obtain ⟨hfeeds, -, he⟩ | ⟨g, hfeeds, -⟩ := feeds_of_runs h
  · rw [hfeeds]
    cases e with
    | completed => contradiction
    | cancelled => rfl
    | failed err => rfl
  · rw [hfeeds]
    cases e <;> rfl

theorem ended_of_mayBecome {e : Ending} (h : r.generation.status.mayBecome e.status)
    (now : Calendar.Moment) (state : σ) :
    (r.ended e now state).outcome = .ok e.status ∧ (r.ended e now state).state = state ∧
      (r.ended e now state).request =
        { r with
          generation := r.generation.enter e.status now
          errorMessage := (e.error?.map (·.message)).or r.errorMessage } := by
  cases e with
  | completed =>
    have h : r.generation.status.mayBecome .completed = true := h
    rw [ended, completed, conclude_of_mayBecome h]
    exact ⟨rfl, rfl, rfl⟩
  | cancelled =>
    have h : r.generation.status.mayBecome .cancelled = true := h
    rw [ended, cancelled, conclude_of_mayBecome h]
    exact ⟨rfl, rfl, rfl⟩
  | failed err =>
    have h : { r with errorMessage := some err.message }.generation.status.mayBecome .failed =
        true := h
    rw [ended, failed, conclude_of_mayBecome h]
    exact ⟨rfl, rfl, rfl⟩

/-- The end of a run does not depend on the state of the sink, which it only hands on. -/
theorem ended_eq {τ : Type} (r : Request) (e : Ending) (now : Calendar.Moment) (state : σ)
    (state' : τ) : r.ended e now state' =
      ⟨(r.ended e now state).request, (r.ended e now state).outcome, (r.ended e now state).log,
        state'⟩ := by
  cases e <;> simp only [ended, completed, cancelled, failed, conclude, advance] <;> split <;> rfl

theorem run_of_waiting (h : r.isWaiting) : ∃ e state',
    Runs schema graph dialect sink r.parameters state (r.calls schema graph dialect sink now state)
        e state' ∧
      r.run schema graph dialect sink now state =
        ((r.begun (r.feeds schema graph sink state) now).counting
          (r.calls schema graph dialect sink now state)).ended e now state' ∧
      r.run schema graph dialect sink.observed now (state, []) =
        ((r.begun (r.feeds schema graph sink state) now).counting
          (r.calls schema graph dialect sink now state)).ended e now
            (state', r.calls schema graph dialect sink now state) := by
  obtain ⟨calls, e, state', hruns, hrun, hobserved⟩ := runPending_begun r schema graph dialect sink
    now state []
  have hcalls : r.calls schema graph dialect sink now state = calls := by
    rw [Request.calls, run_eq_runPending h, hobserved,
      (ended_of_mayBecome (mayBecome_of_runs hruns now) _ _).2.1, List.nil_append]
  rw [run_eq_runPending h, run_eq_runPending h, hcalls]
  exact ⟨e, state', hruns, hrun, hobserved⟩

/-- What a run over a waiting request comes to, in terms of the calls that it makes. -/
theorem exists_runs (h : r.isWaiting) (schema : Schema) (graph : JoinGraph) (dialect : Dialect)
    (sink : Sink σ) (now : Calendar.Moment) (state : σ) : ∃ e,
    Runs schema graph dialect sink r.parameters state (r.calls schema graph dialect sink now state)
        e (r.run schema graph dialect sink now state).state ∧
      (r.run schema graph dialect sink now state).outcome = .ok e.status ∧
      (r.run schema graph dialect sink now state).request =
        r.concluded (r.feeds schema graph sink state)
          (r.calls schema graph dialect sink now state) e now := by
  obtain ⟨e, state', hruns, hrun, -⟩ := run_of_waiting h
  obtain ⟨houtcome, hstate, hrequest⟩ :=
    ended_of_mayBecome (mayBecome_of_runs hruns now) now state'
  rw [hrun]
  refine ⟨e, ?_, houtcome, ?_⟩
  · rw [hstate]
    exact hruns
  · rw [hrequest]
    cases e <;> rfl

theorem run_of_not_isWaiting (h : r.isWaiting = false) :
    r.run schema graph dialect sink now state =
      { request := r, outcome := .error ⟨r.generation.status, .running⟩, state } := by
  apply run_of_busy
  · intro hs
    simp [isWaiting, hs] at h
  · intro hs
    simp [isWaiting, hs] at h

theorem run_observed (r : Request) (schema : Schema) (graph : JoinGraph) (dialect : Dialect)
    (sink : Sink σ) (now : Calendar.Moment) (state : σ) :
    r.run schema graph dialect sink.observed now (state, []) =
      { request := (r.run schema graph dialect sink now state).request
        outcome := (r.run schema graph dialect sink now state).outcome
        log := (r.run schema graph dialect sink now state).log
        state := ((r.run schema graph dialect sink now state).state,
          r.calls schema graph dialect sink now state) } := by
  cases h : r.isWaiting with
  | true =>
    obtain ⟨e, state', hruns, hrun, hobserved⟩ := run_of_waiting h
    rw [hobserved, hrun, (ended_of_mayBecome (mayBecome_of_runs hruns now) now state').2.1]
    exact ended_eq _ _ _ _ _
  | false => rw [calls, run_of_not_isWaiting h, run_of_not_isWaiting h]

end

end Request

end SqlWorkload
