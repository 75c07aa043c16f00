import SqlWorkload.Request.Basic
import SqlWorkload.Failure
import SqlWorkload.Generation.Generator
import SqlWorkload.Query.Dialect
/-!
# Runs

The generation phase of a request. Queries are made one after the other, rendered, and handed to a
sink, until all are made, the sink fails or somebody asks to stop. A sink is whatever takes
queries; its state is the state of the world, which also holds the wish to stop.

    a move that the status allows is made                         (advance_of_mayBecome)
    a request whose generation is under way or over is sent back as it is  (run_of_busy)
-/

namespace SqlWorkload

/-! ## Sinks -/

/-- A query with its text and its number in the workload, counted from 1. -/
structure GeneratedQuery where
  index : Nat
  sql : String
  query : Query
deriving DecidableEq

def Query.numbered (q : Query) (index : Nat) (d : Dialect) : GeneratedQuery :=
  ⟨index, d.render q, q⟩

/-- A consumer of queries over a state; `isCancelled` tells whether the run is to stop. -/
structure Sink (σ : Type) where
  accept : GeneratedQuery → σ → Except GenerationError Unit × σ
  /-- Called at the end of a run that the sink did not break off. -/
  finish : σ → Except GenerationError Unit × σ
  isCancelled : σ → Bool

/-- Keeps the queries, the last one first. -/
def Sink.memory : Sink (List GeneratedQuery) :=
  { accept := fun q kept => (.ok (), q :: kept)
    finish := fun kept => (.ok (), kept)
    isCancelled := fun _ => false }

/-! ## Runs -/

inductive LogLevel where
  | error
  | warn
deriving DecidableEq, Repr

structure LogRecord where
  level : LogLevel
  text : String
deriving DecidableEq, Repr

def LogRecord.line (r : LogRecord) : String :=
  (match r.level with
    | .error => "ERROR: "
    | .warn => "WARN: ") ++ r.text

/-- How a run went: the request after it, its outcome, what was logged, and the sink's state. -/
structure Run (σ : Type) where
  request : Request
  outcome : Except InvalidTransition RunStatus
  log : List LogRecord := []
  state : σ

namespace Request

variable {σ : Type}

/-- Moves the generation phase to a status and goes on from there. A move that the status does not
allow ends the run with the request as it stands. -/
def advance (r : Request) (s : RunStatus) (now : Calendar.Moment) (state : σ)
    (rest : Request → Run σ) : Run σ :=
  match r.generation.transition s now with
  | .error e => { request := r, outcome := .error e, state }
  | .ok p => rest { r with generation := p }

/-- Ends the run in a status. -/
def conclude (r : Request) (s : RunStatus) (now : Calendar.Moment) (state : σ) : Run σ :=
  r.advance s now state fun r => { request := r, outcome := .ok s, state }

/-- The number of queries made so far, as it stands in the log. -/
def countText (r : Request) : String :=
  "after " ++ String.ofList (Text.intText r.generatedCount) ++ " queries"

/-- The message is noted before the phase is moved. -/
def failed (r : Request) (e : GenerationError) (now : Calendar.Moment) (state : σ) : Run σ :=
  { { r with errorMessage := some e.message }.conclude .failed now state with
    log := [⟨.error, "Workload '" ++ r.name ++ "' failed " ++ r.countText ++ ": " ++ e.message⟩] }

def cancelled (r : Request) (now : Calendar.Moment) (state : σ) : Run σ :=
  { r.conclude .cancelled now state with
    log := [⟨.warn, "Workload '" ++ r.name ++ "' cancelled " ++ r.countText⟩] }

def completed (r : Request) (now : Calendar.Moment) (state : σ) : Run σ :=
  r.conclude .completed now state

/-- Finishes the sink, and ends the run as `ending` says unless that fails. -/
def close (r : Request) (sink : Sink σ) (now : Calendar.Moment) (state : σ)
    (ending : Request → Calendar.Moment → σ → Run σ) : Run σ :=
  match sink.finish state with
  | (.error e, state) => r.failed e now state
  | (.ok (), state) => ending r now state

/-- Hands up to `n` more queries to the sink, the first with the number `index`. The wish to stop is
looked at before each query. -/
def feed (sink : Sink σ) (dialect : Dialect) (now : Calendar.Moment) :
    (n : Nat) → Generator → (index : Nat) → Request → σ → Run σ
  | 0, _, _, r, state => r.close sink now state completed
  | n + 1, g, index, r, state =>
    match g.next? with
    | none => r.close sink now state completed
    | some (q, g) =>
      if sink.isCancelled state then r.close sink now state cancelled
      else
        match sink.accept (q.numbered index dialect) state with
        | (.error e, state) => r.failed e now state
        | (.ok (), state) =>
          feed sink dialect now n g (index + 1)
            { r with generatedCount := r.generatedCount + 1 } state

/-- Runs the generation phase of a pending request. A run without tables or with faulty parameters
fails before it has begun. -/
def runPending (r : Request) (schema : Schema) (graph : JoinGraph) (dialect : Dialect)
    (sink : Sink σ) (now : Calendar.Moment) (state : σ) : Run σ :=
  if r.generation.status ≠ .pending then
    { request := r, outcome := .error ⟨r.generation.status, .running⟩, state }
  else if sink.isCancelled state then r.cancelled now state
  else if schema.isEmpty then r.failed (.emptySchema schema.source) now state
  else
    match Generator.start schema graph r.parameters with
    | .error e => r.failed (.invalidParameters e) now state
    | .ok g =>
      r.advance .running now state fun r => feed sink dialect now g.remaining g 1 r state

/-- Runs the generation phase of a request that waits for it; one that was not started is pending
first. -/
def run (r : Request) (schema : Schema) (graph : JoinGraph) (dialect : Dialect) (sink : Sink σ)
    (now : Calendar.Moment) (state : σ) : Run σ :=
  if r.generation.status = .notStarted then
    r.advance .pending now state fun r => r.runPending schema graph dialect sink now state
  else r.runPending schema graph dialect sink now state

/-! ## Lemmas -/

theorem advance_of_mayBecome {r : Request} {s : RunStatus} (h : r.generation.status.mayBecome s)
    (now : Calendar.Moment) (state : σ) (rest : Request → Run σ) :
    r.advance s now state rest = rest { r with generation := r.generation.enter s now } := by
  have hp : r.generation.transition s now = .ok (r.generation.enter s now) :=
    Phase.transition_eq_ok_iff.2 ⟨h, rfl⟩
  simp only [advance, hp]

theorem conclude_of_mayBecome {r : Request} {s : RunStatus} (h : r.generation.status.mayBecome s)
    (now : Calendar.Moment) (state : σ) :
    r.conclude s now state =
      { request := { r with generation := r.generation.enter s now }, outcome := .ok s, state } :=
  advance_of_mayBecome h now state _

/-- A request that neither waits nor is new is sent back as it is. -/
theorem run_of_busy {r : Request} (h₁ : r.generation.status ≠ .notStarted)
    (h₂ : r.generation.status ≠ .pending) (schema : Schema) (graph : JoinGraph)
    (dialect : Dialect) (sink : Sink σ) (now : Calendar.Moment) (state : σ) :
    r.run schema graph dialect sink now state =
      { request := r, outcome := .error ⟨r.generation.status, .running⟩, state } := by
  rw [run, if_neg h₁, runPending, if_pos h₂]

end Request

end SqlWorkload
