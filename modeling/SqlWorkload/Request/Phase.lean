import SqlWorkload.Calendar.Moment
/-!
# Phases

The status of one phase of a request, with the times at which it began and ended. A phase waits,
runs and comes to an end, which it does not leave.

    p.transition s now = .ok r ↔ p.status may be followed by s, and r is p entered into s
                                                                  (transition_eq_ok_iff)
    nothing follows a terminal status                             (not_mayBecome_of_isTerminal)
-/

namespace SqlWorkload

/-! ## Algorithm -/

inductive RunStatus where
  | notStarted
  | pending
  | running
  | completed
  | failed
  | cancelled
deriving DecidableEq, Repr

/-- A transition that the status does not allow. -/
structure InvalidTransition where
  current : RunStatus
  wanted : RunStatus
deriving DecidableEq, Repr

structure Phase where
  status : RunStatus := .notStarted
  startedAt : Option Calendar.Moment := none
  finishedAt : Option Calendar.Moment := none
deriving DecidableEq

namespace RunStatus

def all : List RunStatus := [notStarted, pending, running, completed, failed, cancelled]

def name : RunStatus → String
  | notStarted => "NotStarted"
  | pending => "Pending"
  | running => "Running"
  | completed => "Completed"
  | failed => "Failed"
  | cancelled => "Cancelled"

def ofName? (name : String) : Option RunStatus := all.find? (·.name == name)

def isTerminal : RunStatus → Bool
  | completed | failed | cancelled => true
  | _ => false

/-- The statuses that may follow. -/
def mayBecome : RunStatus → RunStatus → Bool
  | notStarted, pending => true
  | pending, running | pending, cancelled | pending, failed => true
  | running, completed | running, failed | running, cancelled => true
  | _, _ => false

end RunStatus

def InvalidTransition.message (e : InvalidTransition) : String :=
  "Invalid status transition from " ++ e.current.name ++ " to " ++ e.wanted.name

namespace Phase

/-- The phase in a new status; the times of its beginning and its end are noted. -/
def enter (p : Phase) (s : RunStatus) (now : Calendar.Moment) : Phase :=
  { status := s
    startedAt := if s = .running then some now else p.startedAt
    finishedAt := if s.isTerminal then some now else p.finishedAt }

def transition (p : Phase) (s : RunStatus) (now : Calendar.Moment) :
    Except InvalidTransition Phase :=
  if p.status.mayBecome s then .ok (p.enter s now) else .error ⟨p.status, s⟩

end Phase

/-! ## Lemmas -/

namespace RunStatus

theorem not_mayBecome_of_isTerminal {s : RunStatus} (h : s.isTerminal = true) (t : RunStatus) :
    s.mayBecome t = false := by
  cases s <;> first | rfl | simp [isTerminal] at h

theorem ofName?_name (s : RunStatus) : ofName? s.name = some s := by cases s <;> decide

end RunStatus

namespace Phase

@[simp] theorem status_enter (p : Phase) (s : RunStatus) (now : Calendar.Moment) :
    (p.enter s now).status = s := rfl

theorem transition_eq_ok_iff {p r : Phase} {s : RunStatus} {now : Calendar.Moment} :
    p.transition s now = .ok r ↔ p.status.mayBecome s = true ∧ p.enter s now = r := by
  unfold transition; split <;> simp_all

end Phase

end SqlWorkload
