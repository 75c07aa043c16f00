import SqlWorkload.Proofs.Request.History
/-!
# When an execution is over

A finish enters the status it is given if that status may follow, and asks no more. With a terminal
status the execution is over for good. With the two others that may follow it is not: a new request
is made to wait, and one that waits is set running, the error noted all the same. A request waits
only after such a finish, so that without one each other finish that is accepted ends the execution.

    a request is over ↔ its execution has a terminal status       (over_iff)
    an operation changes the status only as a beginning or a finish  (Operation.status_apply)
    a request that waits has been given a finish with `pending`   (exists_pending_of_after)
    an accepted finish ends the execution ↔ its status is terminal   (finishes_after)
-/

namespace SqlWorkload

/-! ## Definitions -/

namespace Request

/-- The execution has come to its end, at a time that was noted, and whatever is done later, no
beginning and no finish is accepted any more. -/
structure Over (r : Request) : Prop where
  isTerminal : r.execution.status.isTerminal = true
  finishedAt_isSome : r.execution.finishedAt.isSome = true
  beginExecution_refused : ∀ later now,
    (r.after later).beginExecution now = (.error ⟨r.execution.status, .running⟩, r.after later)
  finishExecution_refused : ∀ later s error now,
    (r.after later).finishExecution s error now = (.error ⟨r.execution.status, s⟩, r.after later)

/-- The execution has no end yet, and some beginning or finish is still accepted. -/
structure Open (r : Request) : Prop where
  finishedAt_eq : r.execution.finishedAt = none
  accepts : ∀ now, (r.beginExecution now).1 = .ok () ∨
    ∃ s error, (r.finishExecution s error now).1 = .ok ()

/-- The status that a finish enters does not end the execution. -/
inductive Premature : RunStatus → RunStatus → Prop
  | waits : Premature .notStarted .pending
  | runs : Premature .pending .running

/-- What an accepted finish makes of the request `r`. -/
structure Finishes (r : Request) (s : RunStatus) (error : Option String) (now : Calendar.Moment)
    (r' : Request) : Prop where
  status_eq : r'.execution.status = s
  finishedAt_eq : s.isTerminal = true → r'.execution.finishedAt = some now
  errorMessage_eq : r'.errorMessage = error.or r.errorMessage
  over_iff : r'.Over ↔ s.isTerminal = true
  open_iff : r'.Open ↔ Premature r.execution.status s
  over_or_open : r'.Over ∨ r'.Open

end Request

/-! ## The steps of the execution -/

namespace Request

/-- Only what waits, or is made to wait, is finished before its end. -/
theorem Premature.current_eq {current s : RunStatus} (h : Premature current s)
    (hs : s ≠ .pending) : current = .pending := by
  cases h with
  | waits => contradiction
  | runs => rfl

variable {r : Request} {s : RunStatus} {error : Option String} {now : Calendar.Moment}

theorem mayBecome_of_finishExecution (h : (r.finishExecution s error now).1 = .ok ()) :
    r.execution.status.mayBecome s = true := by
  cases hmay : r.execution.status.mayBecome s with
  | true => rfl
  | false =>
    rw [finishExecution_of_not_mayBecome hmay] at h
    contradiction

theorem beginExecution_of_isTerminal (h : r.execution.status.isTerminal = true)
    (now : Calendar.Moment) :
    r.beginExecution now = (.error ⟨r.execution.status, .running⟩, r) := by
  have hstarted : r.execution.status ≠ .notStarted := fun hnew => by
    rw [hnew] at h
    contradiction
  rw [beginExecution_of_started hstarted,
    moveExecution_of_not_mayBecome (RunStatus.not_mayBecome_of_isTerminal h _)]

theorem beginExecution_of_waits (h : r.execution.status = .notStarted ∨
    r.execution.status = .pending) (now : Calendar.Moment) :
    (r.beginExecution now).1 = .ok () ∧ (r.beginExecution now).2.execution.status = .running := by
  rcases h with h | h
  · rw [beginExecution_of_notStarted h]
    exact ⟨rfl, rfl⟩
  · have hstarted : r.execution.status ≠ .notStarted := by simp [h]
    have hrunning : r.execution.status.mayBecome .running = true := by rw [h]; rfl
    rw [beginExecution_of_started hstarted, moveExecution_of_mayBecome hrunning]
    exact ⟨rfl, rfl⟩

theorem open_iff (hr : r.execution.Sound) : r.Open ↔ r.execution.status.isTerminal = false := by
  constructor
  · intro h
    rw [← hr.finishedAt_isSome, h.finishedAt_eq]
    rfl
  · intro h
    refine ⟨Option.not_isSome_iff_eq_none.1 (by simp [hr.finishedAt_isSome, h]), fun now => ?_⟩
    cases hstatus : r.execution.status with
    | notStarted => exact .inl (beginExecution_of_waits (.inl hstatus) now).1
    | pending => exact .inl (beginExecution_of_waits (.inr hstatus) now).1
    | running =>
      have hmay : r.execution.status.mayBecome .completed = true := by rw [hstatus]; rfl
      exact .inr ⟨.completed, none, by rw [finishExecution_of_mayBecome hmay]⟩
    | _ => rw [hstatus] at h; contradiction

theorem over_iff (hr : r.execution.Sound) : r.Over ↔ r.execution.status.isTerminal = true := by
  refine ⟨Over.isTerminal, fun h => ?_⟩
  have hstays (later : List (Operation × Calendar.Moment)) :
      (r.after later).execution = r.execution :=
    (reaches_after r later).2.1.eq_of_isTerminal h
  refine ⟨h, hr.finishedAt_isSome.trans h, fun later now => ?_, fun later s error now => ?_⟩
  · rw [beginExecution_of_isTerminal (by rwa [hstays]), hstays]
  · rw [finishExecution_of_not_mayBecome (by
      rw [hstays]; exact RunStatus.not_mayBecome_of_isTerminal h s), hstays]

theorem premature_iff (h : r.execution.status.mayBecome s = true) :
    Premature r.execution.status s ↔ s.isTerminal = false := by
  revert h
  generalize r.execution.status = current
  intro h
  constructor
  · rintro ⟨⟩ <;> rfl
  · intro hs
    cases current <;> cases s <;> first | contradiction | constructor

theorem finishes (hr : r.execution.Sound) (h : (r.finishExecution s error now).1 = .ok ()) :
    r.Finishes s error now (r.finishExecution s error now).2 := by
  have hmay := mayBecome_of_finishExecution h
  rw [finishExecution_of_mayBecome hmay]
  dsimp only
  generalize hdone : ({ r with
    execution := r.execution.enter s now, errorMessage := error.or r.errorMessage } : Request) = r'
  have hstatus : r'.execution.status = s := by rw [← hdone]; rfl
  have hsound : r'.execution.Sound := hdone ▸ hr.enter hmay now
  have hover := over_iff hsound
  have hopen := open_iff hsound
  rw [hstatus] at hover hopen
  refine ⟨hstatus, fun hs => ?_, by rw [← hdone], hover, ?_, ?_⟩
  · rw [← hdone]
    exact if_pos hs
  · rw [hopen, premature_iff hmay]
  · rw [hover, hopen]
    exact Bool.eq_false_or_eq_true _

end Request

/-! ## Histories -/

theorem Operation.status_apply (op : Operation) (r : Request) (now : Calendar.Moment) :
    (op.apply r now).2.execution.status = r.execution.status ∨
      (op.apply r now).2.execution.status = .running ∨
      ∃ error, op = .finishExecution (op.apply r now).2.execution.status error := by
  cases op with
  | run schema graph dialect sink state =>
    exact .inl (congrArg Phase.status ((keeps_apply _ r now).execution_of_run rfl))
  | recordExecuted => exact .inl rfl
  | beginExecution =>
    by_cases hwaits : r.execution.status = .notStarted ∨ r.execution.status = .pending
    · exact .inr (.inl (Request.beginExecution_of_waits hwaits now).2)
    · obtain ⟨hnew, hpending⟩ := not_or.1 hwaits
      have hmay : r.execution.status.mayBecome .running = false := by
        cases hstatus : r.execution.status <;> first | rfl | contradiction
      refine .inl ?_
      simp only [apply, Request.beginExecution_of_started hnew,
        Request.moveExecution_of_not_mayBecome hmay]
  | finishExecution s error =>
    cases hmay : r.execution.status.mayBecome s with
    | true =>
      refine .inr (.inr ⟨error, ?_⟩)
      simp only [apply, Request.finishExecution_of_mayBecome hmay, Phase.status_enter]
    | false =>
      refine .inl ?_
      simp only [apply, Request.finishExecution_of_not_mayBecome hmay]

namespace Request

/-- An execution waits only if it was told to, by a finish. -/
theorem exists_pending_of_after {r : Request} (hr : r.execution.status ≠ .pending)
    {history : List (Operation × Calendar.Moment)}
    (h : (r.after history).execution.status = .pending) :
    ∃ x ∈ history, ∃ error, x.1 = .finishExecution .pending error := by
  induction history generalizing r with
  | nil => exact absurd h hr
  | cons x rest ih =>
    obtain ⟨op, now⟩ := x
    by_cases hnext : (op.apply r now).2.execution.status = .pending
    · refine ⟨_, List.mem_cons_self, ?_⟩
      rcases op.status_apply r now with hsame | hrunning | hfinish
      · exact absurd (hsame.symm.trans hnext) hr
      · rw [hnext] at hrunning
        contradiction
      · rwa [hnext] at hfinish
    · obtain ⟨x, hx, hfinish⟩ := ih hnext h
      exact ⟨x, List.mem_cons_of_mem _ hx, hfinish⟩

theorem Finishes.over_of_not_premature {r r' : Request} {s : RunStatus} {error : Option String}
    {now : Calendar.Moment} (h : r.Finishes s error now r')
    (hs : ¬ Premature r.execution.status s) : r'.Over :=
  h.over_or_open.resolve_right fun hopen => hs (h.open_iff.1 hopen)

/-- Whatever was done before with a request, a finish that is accepted ends its execution just if it
is given a terminal status. Of an execution that runs this is true of each accepted finish; and of
any execution, if neither it nor a finish before it was given the status `pending`. -/
theorem finishes_after (id : Uuid) (name : String) (p : Parameters) (source : String)
    (created : Calendar.Moment) (history : List (Operation × Calendar.Moment)) {s : RunStatus}
    {error : Option String} {now : Calendar.Moment} {r' : Request}
    (h : ((ofParameters id name p source created).after history).finishExecution s error now =
      (.ok (), r')) :
    ((ofParameters id name p source created).after history).Finishes s error now r' ∧
      (((ofParameters id name p source created).after history).execution.status = .running →
        r'.Over) ∧
      ((∀ x ∈ history, ∀ error, x.1 ≠ .finishExecution .pending error) → s ≠ .pending →
        r'.Over) := by
  have hsound := ((sound_ofParameters id name p source created).after history).execution
  have hnew : (ofParameters id name p source created).execution.status ≠ .pending := nofun
  have hfinishes := finishes hsound (congrArg Prod.fst h)
  rw [h] at hfinishes
  refine ⟨hfinishes, fun hrunning => ?_, fun hnone hs => ?_⟩
  · refine hfinishes.over_of_not_premature fun hpremature => ?_
    rw [hrunning] at hpremature
    nomatch hpremature
  · refine hfinishes.over_of_not_premature fun hpremature => ?_
    obtain ⟨x, hx, error, hfinish⟩ :=
      exists_pending_of_after hnew (hpremature.current_eq hs)
    exact hnone x hx error hfinish

/-- A run that is stopped, and the beginning of the execution. -/
def underWay : List (Operation × Calendar.Moment) :=
  [(.run .logs (.build .logs) .ansi (.stopAfter 1) 0, .newYear 2024),
    (.beginExecution, .newYear 2025), (.recordExecuted, .newYear 2025)]

theorem finishes_after_underWay :
    ∃ r', (twoLogs.after underWay).finishExecution .failed (some "timeout") (.newYear 2026) =
        (.ok (), r') ∧
      (twoLogs.after underWay).Finishes .failed (some "timeout") (.newYear 2026) r' ∧
      (twoLogs.after underWay).execution.status = .running ∧ r'.Over := by
  obtain ⟨r', h⟩ : ∃ r', (twoLogs.after underWay).finishExecution .failed (some "timeout")
      (.newYear 2026) = (.ok (), r') := ⟨_, finishExecution_of_mayBecome (by decide +kernel) _ _⟩
  have hrunning : (twoLogs.after underWay).execution.status = .running := by decide +kernel
  obtain ⟨hfinishes, hover, -⟩ :=
    finishes_after ⟨0⟩ "logs" (.plain 2 7) "logs" (.newYear 2024) underWay h
  exact ⟨r', h, hfinishes, hrunning, hover hrunning⟩

/-- A new request that is finished with the status `pending` holds the error, but its execution has
no end and is begun after that. -/
theorem not_over_of_pending :
    ∃ r', twoLogs.finishExecution .pending (some "timeout") (.newYear 2025) = (.ok (), r') ∧
      r'.errorMessage = some "timeout" ∧ r'.execution.status.isTerminal = false ∧
      r'.execution.finishedAt = none ∧ (r'.beginExecution (.newYear 2026)).1 = .ok () ∧
      ¬ r'.Over := by
  refine ⟨_, finishExecution_of_mayBecome rfl _ _, rfl, rfl, rfl, ?_, fun hover => ?_⟩
  · exact (beginExecution_of_waits (.inr rfl) _).1
  · have hended := hover.isTerminal
    contradiction

end Request

end SqlWorkload
