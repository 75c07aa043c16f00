import SqlWorkload.Request.Phase
import SqlWorkload.Request.Uuid
import SqlWorkload.Parameters
/-!
# Requests

A request for a workload. It is generated in one phase and executed in another; the two advance
apart from each other. A step of the execution answers with the request after it, also if it is
refused.

    a step to a status that may follow enters it, and any other leaves the request as it was
                              (finishExecution_of_mayBecome, finishExecution_of_not_mayBecome)
-/

namespace SqlWorkload

/-! ## Algorithm -/

structure Request where
  id : Uuid
  name : String
  parameters : Parameters
  /-- The key of the source that the workload is for. -/
  schemaSource : String
  generatedCount : Nat := 0
  executedCount : Nat := 0
  generation : Phase := {}
  execution : Phase := {}
  createdAt : Calendar.Moment
  errorMessage : Option String := none
  resultFilePath : Option String := none
  resultCsvPath : Option String := none
deriving DecidableEq

namespace Request

/-- A new request, of which nothing has been done yet. -/
def ofParameters (id : Uuid) (name : String) (parameters : Parameters) (schemaSource : String)
    (now : Calendar.Moment) : Request :=
  { id, name, parameters, schemaSource, createdAt := now }

/-- Whether the queries made so far are only a part of the workload. -/
def isPartial (r : Request) : Bool :=
  r.generation.status != .completed && 0 < r.generatedCount

def withExecution (r : Request) (p : Phase) : Request := { r with execution := p }

/-- Moves the execution phase to a status; a move that it does not allow leaves the request as it
stands. -/
def moveExecution (r : Request) (s : RunStatus) (now : Calendar.Moment) :
    Except InvalidTransition Unit × Request :=
  match r.execution.transition s now with
  | .error e => (.error e, r)
  | .ok p => (.ok (), r.withExecution p)

/-- Begins the execution; one that was not started is pending first. -/
def beginExecution (r : Request) (now : Calendar.Moment) :
    Except InvalidTransition Unit × Request :=
  if r.execution.status = .notStarted then
    match r.moveExecution .pending now with
    | (.error e, r) => (.error e, r)
    | (.ok (), r) => r.moveExecution .running now
  else r.moveExecution .running now

def recordExecuted (r : Request) : Request := { r with executedCount := r.executedCount + 1 }

/-- Enters a status of the execution phase; an error text replaces an earlier one. -/
def finishExecution (r : Request) (s : RunStatus) (error : Option String) (now : Calendar.Moment) :
    Except InvalidTransition Unit × Request :=
  match r.moveExecution s now with
  | (.error e, r) => (.error e, r)
  | (.ok (), r) => (.ok (), { r with errorMessage := error.or r.errorMessage })

/-! ## Lemmas -/

theorem moveExecution_of_mayBecome {r : Request} {s : RunStatus}
    (h : r.execution.status.mayBecome s) (now : Calendar.Moment) :
    r.moveExecution s now = (.ok (), r.withExecution (r.execution.enter s now)) := by
  have hp : r.execution.transition s now = .ok (r.execution.enter s now) :=
    Phase.transition_eq_ok_iff.2 ⟨h, rfl⟩
  simp only [moveExecution, hp]

theorem moveExecution_of_not_mayBecome {r : Request} {s : RunStatus}
    (h : r.execution.status.mayBecome s = false) (now : Calendar.Moment) :
    r.moveExecution s now = (.error ⟨r.execution.status, s⟩, r) := by
  simp [moveExecution, Phase.transition, h]

theorem beginExecution_of_notStarted {r : Request} (h : r.execution.status = .notStarted)
    (now : Calendar.Moment) :
    r.beginExecution now =
      (.ok (), r.withExecution ((r.execution.enter .pending now).enter .running now)) := by
  have hpending : r.execution.status.mayBecome .pending = true := by rw [h]; rfl
  have hrunning : (r.withExecution (r.execution.enter .pending now)).execution.status.mayBecome
      .running = true := rfl
  rw [beginExecution, if_pos h, moveExecution_of_mayBecome hpending]
  exact moveExecution_of_mayBecome hrunning now

theorem beginExecution_of_started {r : Request} (h : r.execution.status ≠ .notStarted)
    (now : Calendar.Moment) : r.beginExecution now = r.moveExecution .running now := if_neg h

theorem finishExecution_of_mayBecome {r : Request} {s : RunStatus}
    (h : r.execution.status.mayBecome s) (error : Option String) (now : Calendar.Moment) :
    r.finishExecution s error now =
      (.ok (), { r with
        execution := r.execution.enter s now, errorMessage := error.or r.errorMessage }) := by
  rw [finishExecution, moveExecution_of_mayBecome h]
  rfl

theorem finishExecution_of_not_mayBecome {r : Request} {s : RunStatus}
    (h : r.execution.status.mayBecome s = false) (error : Option String) (now : Calendar.Moment) :
    r.finishExecution s error now = (.error ⟨r.execution.status, s⟩, r) := by
  rw [finishExecution, moveExecution_of_not_mayBecome h]

end Request

end SqlWorkload
