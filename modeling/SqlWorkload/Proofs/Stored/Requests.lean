import SqlWorkload.Stored.Request
import SqlWorkload.Proofs.Calendar.Instants
import SqlWorkload.Proofs.Request.History
import SqlWorkload.Proofs.Request.Identifiers
import SqlWorkload.Proofs.Stored.Parameters
/-!
# Requests that come back from documents

All parts of a request are read as they were written, but the parameters are checked. So a request
comes back with its probabilities in the unit interval, or not at all if its parameters are faulty,
whatever has become of it before.

    phases come back as they were                                 (Phase.ofJson?_toJson)
    a request comes back as its parameters do                     (Request.reload_eq)
    operations enter no other times than their own                (Request.dated_after)
    so does a request after any operations                        (Request.reload_after)
-/

namespace SqlWorkload

open Json

/-! ## Phases -/

theorem Calendar.Moment.ofJson?_stored {m : Calendar.Moment} (h : m.date.inRange = true) :
    Calendar.Moment.ofJson? (.ofString m.stored) = some m := by
  rw [ofJson?, ofString, string?, Option.bind_some, stored, String.toList_ofList]
  exact Calendar.readInstant_text h

namespace Phase

/-- The times of the phase have dates that can be stored. -/
structure Dated (p : Phase) : Prop where
  startedAt : ∀ m, p.startedAt = some m → m.date.inRange = true
  finishedAt : ∀ m, p.finishedAt = some m → m.date.inRange = true

theorem dated_new : ({} : Phase).Dated := ⟨nofun, nofun⟩

theorem Dated.enter {p : Phase} (hp : p.Dated) (s : RunStatus) {now : Calendar.Moment}
    (hnow : now.date.inRange = true) : (p.enter s now).Dated where
  startedAt m h := by
    simp only [Phase.enter] at h
    split at h
    · exact Option.some.inj h ▸ hnow
    · exact hp.startedAt m h
  finishedAt m h := by
    simp only [Phase.enter] at h
    split at h
    · exact Option.some.inj h ▸ hnow
    · exact hp.finishedAt m h

theorem optional?_time {t : Option Calendar.Moment} (h : ∀ m, t = some m → m.date.inRange = true) :
    optional? Calendar.Moment.ofJson? (some (.ofOption (fun m => .ofString m.stored) t)) =
      some t :=
  optional?_ofOption t fun m hm =>
    ⟨by simp [ofString], Calendar.Moment.ofJson?_stored (h m hm)⟩

theorem ofJson?_toJson {p : Phase} (h : p.Dated) : Phase.ofJson? p.toJson = some p := by
  have hstatus : (ofString p.status.name).tag?.bind RunStatus.ofName? = some p.status :=
    RunStatus.ofName?_name p.status
  rw [ofJson?, toJson, Record.sound?_record
    (show ["status", "started_at", "finished_at"].Nodup by decide) rfl]
  simp only [Option.bind_eq_bind, Option.bind_some, Record.field?, Record.get?, List.lookup_cons,
    String.reduceBEq, optional?_time h.startedAt, optional?_time h.finishedAt, hstatus]
  rfl

end Phase

/-! ## Requests -/

namespace Request

/-- All times of the request have dates that can be stored. -/
structure Dated (r : Request) : Prop where
  generation : r.generation.Dated
  execution : r.execution.Dated
  createdAt : r.createdAt.date.inRange = true

/-- What there is to read of a request can be read: its numbers fit the readers, and its times the
calendar. Whether its parameters are in order does not matter. -/
structure Storable (r : Request) : Prop where
  restorable : r.parameters.Restorable
  fitSigned : r.parameters.FitSigned
  generatedCount_lt : r.generatedCount < UInt64.size
  executedCount_lt : r.executedCount < UInt64.size
  dated : r.Dated

theorem ofJson_of_record {j : Json} {fields : List (String × Json)}
    (h : Record.of? fieldNames 0 j = some ⟨fields, true⟩) :
    ofJson j = (fields.foldlM (fun (d : Draft) (x : String × Json) => d.set x.1 x.2) {} >>= fun d =>
      orMalformed d.request?) := by
  rw [ofJson, h]
  rfl

theorem reload_eq {r : Request} (h : r.Storable) : r.reload =
    (r.parameters.checked.mapError .invalidParameters).map fun p => { r with parameters := p } := by
  have hgenerated := nat?_ofNat h.generatedCount_lt (Nat.le_refl _)
  have hexecuted := nat?_ofNat h.executedCount_lt (Nat.le_refl _)
  have hgeneration := Phase.ofJson?_toJson h.dated.generation
  have hexecution := Phase.ofJson?_toJson h.dated.execution
  have hcreated := Calendar.Moment.ofJson?_stored h.dated.createdAt
  have hparameters := Parameters.ofJson_toJson h.restorable h.fitSigned
  have hstring (s : String) : (ofString s).string? = some s := rfl
  have honce : fieldNames.Nodup := by decide
  rw [reload, toJson, ofJson_of_record (Record.of?_record honce 0 rfl)]
  -- the fields before the parameters can all be read
  simp only [List.foldlM_cons, Draft.set, orMalformed, hstring, Uuid.ofText?_text, hparameters,
    bind_pure_comp, Option.map_eq_map, Option.map_some, Option.bind_eq_bind, Option.bind_some]
  cases r.parameters.checked with
  | error e => rfl
  | ok p =>
    simp only [hgenerated, hexecuted, hgeneration, hexecution, hcreated, optional?_ofString,
      Option.map_some]
    rfl

/-! ## Operations -/

namespace Dated

variable {r : Request} {now : Calendar.Moment}

theorem moveExecution (h : r.Dated) (s : RunStatus) (hnow : now.date.inRange = true) :
    (r.moveExecution s now).2.Dated := by
  cases hmay : r.execution.status.mayBecome s with
  | true =>
    rw [moveExecution_of_mayBecome hmay]
    exact ⟨h.generation, h.execution.enter s hnow, h.createdAt⟩
  | false =>
    rw [moveExecution_of_not_mayBecome hmay]
    exact h

theorem beginExecution (h : r.Dated) (hnow : now.date.inRange = true) :
    (r.beginExecution now).2.Dated := by
  unfold Request.beginExecution
  split
  · have hpending := h.moveExecution .pending hnow
    split
    · next hmove =>
      rw [hmove] at hpending
      exact hpending
    · next hmove =>
      rw [hmove] at hpending
      exact hpending.moveExecution .running hnow
  · exact h.moveExecution .running hnow

theorem finishExecution (h : r.Dated) (s : RunStatus) (error : Option String)
    (hnow : now.date.inRange = true) : (r.finishExecution s error now).2.Dated := by
  have hmoved := h.moveExecution s hnow
  unfold Request.finishExecution
  split
  · next hmove =>
    rw [hmove] at hmoved
    exact hmoved
  · next hmove =>
    rw [hmove] at hmoved
    exact ⟨hmoved.generation, hmoved.execution, hmoved.createdAt⟩

theorem concluded (h : r.Dated) (fed : Bool) (calls : List SinkCall) (e : Ending)
    (hnow : now.date.inRange = true) : (r.concluded fed calls e now).Dated where
  generation :=
    { startedAt := fun m hm => by
        simp only [Request.concluded] at hm
        split at hm
        · exact Option.some.inj hm ▸ hnow
        · exact h.generation.startedAt m hm
      finishedAt := fun m hm => Option.some.inj hm ▸ hnow }
  execution := h.execution
  createdAt := h.createdAt

theorem apply (h : r.Dated) (op : Operation) (hnow : now.date.inRange = true) :
    (op.apply r now).2.Dated := by
  cases op with
  | run schema graph dialect sink state =>
    show (r.run schema graph dialect sink now state).request.Dated
    cases hwaiting : r.isWaiting with
    | true =>
      obtain ⟨e, -, -, hrequest⟩ := exists_runs hwaiting schema graph dialect sink now state
      rw [hrequest]
      exact h.concluded _ _ e hnow
    | false =>
      rw [run_of_not_isWaiting hwaiting]
      exact h
  | beginExecution => exact h.beginExecution hnow
  | recordExecuted => exact ⟨h.generation, h.execution, h.createdAt⟩
  | finishExecution s error => exact h.finishExecution s error hnow

theorem after (h : r.Dated) {history : List (Operation × Calendar.Moment)}
    (hhistory : ∀ x ∈ history, x.2.date.inRange = true) : (r.after history).Dated := by
  induction history generalizing r with
  | nil => exact h
  | cons x rest ih =>
    obtain ⟨hx, hrest⟩ := List.forall_mem_cons.1 hhistory
    exact ih (h.apply x.1 hx) hrest

end Dated

/-- Whatever has been done with a request, it comes back if its parameters pass the check, with all
its fields as they were but the probabilities, which the check moves into the unit interval. If they
do not, it is refused with the fault that was found. -/
theorem reload_after (id : Uuid) (name : String) {p : Parameters} (source : String)
    {created : Calendar.Moment} {history : List (Operation × Calendar.Moment)}
    (hx : p.Restorable) (hp : p.FitSigned) (hcreated : created.date.inRange = true)
    (hhistory : ∀ x ∈ history, x.2.date.inRange = true)
    (hcount : ((ofParameters id name p source created).after history).executedCount < UInt64.size) :
    ((ofParameters id name p source created).after history).reload =
      (p.checked.mapError .invalidParameters).map fun q =>
        { (ofParameters id name p source created).after history with parameters := q } := by
  have hparameters : ((ofParameters id name p source created).after history).parameters = p :=
    (reaches_after _ history).2.2
  have hsound := (sound_ofParameters id name p source created).after history
  have hdated : (ofParameters id name p source created).Dated :=
    ⟨Phase.dated_new, Phase.dated_new, hcreated⟩
  have hgenerated : ((ofParameters id name p source created).after history).generatedCount <
      UInt64.size := by
    have hle := hsound.count_le
    have hlt := hp.numQueries_lt
    rw [hparameters] at hle
    omega
  have hstorable : ((ofParameters id name p source created).after history).Storable :=
    ⟨hparameters.symm ▸ hx, hparameters.symm ▸ hp, hgenerated, hcount, hdated.after hhistory⟩
  rw [reload_eq hstorable, hparameters]

/-- One probability is greater than one. -/
def eager : Request :=
  .ofParameters ⟨1⟩ "logs" { Parameters.plain 2 7 with indexHintProbability := .ofRatio 3 2 } "logs"
    (.newYear 2024)

/-- A run that is stopped after a query, and the beginning of the execution. -/
def stopped : List (Operation × Calendar.Moment) :=
  [(.run .logs (.build .logs) .ansi (.stopAfter 1) 0, .newYear 2025),
    (.beginExecution, .newYear 2026)]

theorem reload_after_stopped : (eager.after stopped).reload =
    .ok { eager.after stopped with
      parameters := { Parameters.plain 2 7 with indexHintProbability := .one } } := by
  have hchecked : eager.parameters.checked =
      .ok { Parameters.plain 2 7 with indexHintProbability := .one } := by decide +kernel
  have hreload : (eager.after stopped).reload =
      (eager.parameters.checked.mapError .invalidParameters).map fun q =>
        { eager.after stopped with parameters := q } :=
    reload_after ⟨1⟩ "logs" "logs" (by decide +kernel) (by decide +kernel) (by decide)
      (by simp only [stopped, List.forall_mem_cons]; decide) (by decide +kernel)
  rw [hreload, hchecked]
  rfl

/-- No queries are asked for. -/
def idle : Request := .ofParameters ⟨0⟩ "logs" (.plain 0 7) "logs" (.newYear 2024)

/-- A request for no queries has failed after its run, and is refused when it is read back. One
whose probability is too great comes back with another. -/
theorem not_reload_of_unchecked :
    idle.parameters.Restorable ∧ idle.parameters.FitSigned ∧
      (idle.after stopped).generation.status = .failed ∧
      (idle.after stopped).reload = .error (.invalidParameters .noQueries) ∧
      eager.parameters.Restorable ∧ eager.parameters.FitSigned ∧
      eager.reload ≠ .ok eager ∧
      eager.reload.toOption.map (·.parameters.indexHintProbability) = some .one := by
  decide +kernel

end Request

end SqlWorkload
