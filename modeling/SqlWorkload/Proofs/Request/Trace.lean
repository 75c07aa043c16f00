import SqlWorkload.Proofs.Request.Endings
/-!
# What a run hands to its sink

The queries that a run hands out are the first ones of its workload, in order, and it stops with the
first that the sink refuses or after which somebody asks to stop. The sink is finished once, after
them, unless it has refused a query. Each lemma on `Feeds` is an induction on the derivation, that
is, on the queries that are left.

    the calls of a run over a waiting request, and what it counts                (run_traced)
-/

namespace SqlWorkload

variable {σ : Type}

/-- Whether a query was handed out and not taken. -/
def SinkCall.refuses : SinkCall → Bool
  | accept _ (.error _) _ => true
  | _ => false

/-- The queries made for a request. -/
def Request.queries (r : Request) (schema : Schema) (graph : JoinGraph) : List Query :=
  match Generator.start schema graph r.parameters with
  | .ok g => g.queries
  | .error _ => []

/-- The queries made for a request, as they are handed out. -/
def Request.workload (r : Request) (schema : Schema) (graph : JoinGraph) (dialect : Dialect) :
    List GeneratedQuery :=
  match Generator.start schema graph r.parameters with
  | .ok g => g.workload 1 dialect
  | .error _ => []

/-- The calls of a run that is to hand out such queries, its sink fed or not, and what the run
counts. -/
structure Request.Traced (r : Request) (queries : List Query) (dialect : Dialect) (fed : Bool)
    (calls : List SinkCall) (run : Run σ) : Prop where
  /-- What is handed out at a place is the query at that place, with its number and its text. -/
  handed : ∀ i x, (calls.filterMap (·.query?))[i]? = some x →
    x.index = i + 1 ∧ x.sql = dialect.render x.query ∧ queries[i]? = some x.query
  no_more : calls.Pairwise fun a b =>
    a.refuses = true ∨ a.raised = true → b.query? = none
  finished_last : fed = true → calls.any (·.refuses) = false →
    ∃ handed answer, calls = handed ++ [.finish answer] ∧ ∀ c ∈ handed, c.query?.isSome
  not_finished : fed = false ∨ calls.any (·.refuses) = true → ∀ c ∈ calls, c.query?.isSome
  count_eq : run.request.generatedCount = r.generatedCount + calls.countP (·.takes)
  count_le : run.request.generatedCount ≤ r.generatedCount + r.parameters.numQueries
  count_of_completed : run.outcome = .ok .completed →
    run.request.generatedCount = r.generatedCount + r.parameters.numQueries
  /-- Somebody asked to stop while a query was taken, and nothing failed. -/
  count_of_raised : ∀ q, .accept q (.ok ()) true ∈ calls → (∀ c ∈ calls, c.error? = none) →
    q.index ≤ r.parameters.numQueries ∧
      run.request.generatedCount = r.generatedCount + q.index ∧
      run.outcome = .ok (if q.index < r.parameters.numQueries then .cancelled else .completed)

/-! ## Lemmas -/

section

variable (q : GeneratedQuery) (answer : Except GenerationError Unit) (e : GenerationError)
  (b : Bool)

@[simp] theorem SinkCall.refuses_accept_error : (accept q (.error e) b).refuses = true := rfl

@[simp] theorem SinkCall.refuses_accept_ok : (accept q (.ok ()) b).refuses = false := rfl

@[simp] theorem SinkCall.refuses_finish : (finish answer).refuses = false := rfl

end

namespace Feeds

variable {sink : Sink σ} {w : List GeneratedQuery} {state state' : σ} {calls : List SinkCall}
  {e : Ending}

theorem handed_prefix (h : Feeds sink w state calls e state') :
    calls.filterMap (·.query?) <+: w := by
  induction h with
  | finished h => exact List.prefix_refl []
  | stopped hup h => exact List.nil_prefix
  | @refused q rest _ _ _ hdown h => exact ⟨rest, rfl⟩
  | @taken q _ _ _ _ _ _ hdown h tail ih => exact List.prefix_cons_inj q |>.2 ih

/-- No query is left out, and none is handed out twice. -/
theorem handed {g : Generator} {dialect : Dialect}
    (h : Feeds sink (g.workload 1 dialect) state calls e state') {i : Nat} {x : GeneratedQuery}
    (hx : (calls.filterMap (·.query?))[i]? = some x) :
    x.index = i + 1 ∧ x.sql = dialect.render x.query ∧ g.queries[i]? = some x.query := by
  obtain ⟨rest, hrest⟩ := h.handed_prefix
  have hplace : (g.workload 1 dialect)[i]? = some x := by
    rw [← hrest, List.getElem?_append_left (List.getElem?_eq_some_iff.1 hx).1]
    exact hx
  obtain ⟨hindex, hsql, hquery⟩ := Generator.getElem?_workload.1 hplace
  exact ⟨hindex.trans (Nat.add_comm 1 i), hsql, hquery⟩

/-- Nothing is handed out when somebody asks to stop before it. -/
theorem query?_eq_none_of_raised (h : Feeds sink w state calls e state')
    (hup : sink.isCancelled state = true) : ∀ c ∈ calls, c.query? = none := by
  cases h with
  | finished h => simp
  | stopped _ h => simp
  | refused hdown h => rw [hdown] at hup; contradiction
  | taken hdown h tail => rw [hdown] at hup; contradiction

theorem no_more (h : Feeds sink w state calls e state') :
    calls.Pairwise fun a b => a.refuses = true ∨ a.raised = true → b.query? = none := by
  induction h with
  | finished h => exact List.pairwise_singleton _ _
  | stopped hup h => exact List.pairwise_singleton _ _
  | refused hdown h => exact List.pairwise_singleton _ _
  | taken hdown h tail ih =>
    refine List.Pairwise.cons (fun c hc hstop => ?_) ih
    rw [SinkCall.refuses_accept_ok, SinkCall.raised_accept] at hstop
    exact tail.query?_eq_none_of_raised (by simpa using hstop) c hc

theorem finished_last (h : Feeds sink w state calls e state')
    (hr : calls.any (·.refuses) = false) :
    ∃ handed answer, calls = handed ++ [.finish answer] ∧ ∀ c ∈ handed, c.query?.isSome := by
  induction h with
  | finished h => exact ⟨[], _, rfl, by simp⟩
  | stopped hup h => exact ⟨[], _, rfl, by simp⟩
  | refused hdown h => simp at hr
  | taken hdown h tail ih =>
    obtain ⟨handed, answer, hcalls, hall⟩ := ih (by simpa using hr)
    refine ⟨_ :: handed, answer, by rw [hcalls]; rfl, ?_⟩
    exact List.forall_mem_cons.2 ⟨rfl, hall⟩

theorem not_finished (h : Feeds sink w state calls e state')
    (hr : calls.any (·.refuses) = true) : ∀ c ∈ calls, c.query?.isSome := by
  induction h with
  | finished h => simp at hr
  | stopped hup h => simp at hr
  | refused hdown h => simp
  | taken hdown h tail ih => exact List.forall_mem_cons.2 ⟨rfl, ih (by simpa using hr)⟩

theorem countP_takes_le (h : Feeds sink w state calls e state') :
    calls.countP (·.takes) ≤ w.length := by
  induction h with
  | finished h => simp
  | stopped hup h => simp
  | refused hdown h => simp
  | taken hdown h tail ih =>
    rw [List.countP_cons, SinkCall.takes_accept_ok, List.length_cons]
    exact Nat.succ_le_succ ih

theorem countP_takes_of_completed (h : Feeds sink w state calls e state')
    (he : e.status = .completed) : calls.countP (·.takes) = w.length := by
  induction h with
  | finished h => rfl
  | @stopped _ _ _ _ answer hup h => cases answer <;> contradiction
  | refused hdown h => contradiction
  | taken hdown h tail ih =>
    rw [List.countP_cons, SinkCall.takes_accept_ok, List.length_cons, if_pos rfl, ih he]

theorem countP_takes_of_raised (h : Feeds sink w state calls e state')
    (hup : sink.isCancelled state = true) : calls.countP (·.takes) = 0 := by
  rw [List.countP_eq_zero]
  intro c hc
  have hnone := h.query?_eq_none_of_raised hup c hc
  cases c with
  | accept q answer b => contradiction
  | finish answer => simp

/-- The query after which somebody asks to stop is the last one that is taken. -/
theorem getElem?_of_raised (h : Feeds sink w state calls e state') {q : GeneratedQuery}
    (hq : .accept q (.ok ()) true ∈ calls) :
    ∃ k, calls.countP (·.takes) = k + 1 ∧ w[k]? = some q := by
  induction h with
  | finished h => simp at hq
  | stopped hup h => simp at hq
  | refused hdown h => simp at hq
  | taken hdown h tail ih =>
    rw [List.countP_cons, SinkCall.takes_accept_ok, if_pos rfl]
    rcases List.mem_cons.1 hq with heq | hq
    · obtain ⟨rfl, -, hup⟩ := SinkCall.accept.inj heq
      exact ⟨0, by rw [tail.countP_takes_of_raised hup.symm], rfl⟩
    · obtain ⟨k, hk, hget⟩ := ih hq
      exact ⟨k + 1, by rw [hk], hget⟩

/-- A wish to stop that is raised with the `k`-th query ends the run after `k` queries, unless there
are no more. -/
theorem count_of_raised {g : Generator} {dialect : Dialect}
    (h : Feeds sink (g.workload 1 dialect) state calls e state') {q : GeneratedQuery}
    (hq : .accept q (.ok ()) true ∈ calls) (herror : ∀ c ∈ calls, c.error? = none) :
    q.index ≤ g.remaining ∧ calls.countP (·.takes) = q.index ∧
      e.status = if q.index < g.remaining then .cancelled else .completed := by
  have hlength := g.length_workload 1 dialect
  obtain ⟨k, hk, hget⟩ := h.getElem?_of_raised hq
  have hindex : q.index = k + 1 :=
    (Generator.getElem?_workload.1 hget).1.trans (Nat.add_comm 1 k)
  have hlt : k < g.remaining := hlength ▸ (List.getElem?_eq_some_iff.1 hget).1
  have hraised : calls.any (·.raised) = true := List.any_eq_true.2 ⟨_, hq, rfl⟩
  refine ⟨by omega, by omega, ?_⟩
  rw [h.ending_eq, List.findSome?_eq_none_iff.2 herror, hraised, hk, hlength, hindex, Bool.or_true,
    Bool.true_and]
  by_cases hmore : k + 1 < g.remaining
  · simp [hmore, Ending.status]
  · simp [hmore, Ending.status]

end Feeds

namespace Request

variable {r : Request} {schema : Schema} {graph : JoinGraph} {dialect : Dialect} {sink : Sink σ}
  {state state' : σ} {calls : List SinkCall} {e : Ending}

theorem queries_of_start {g : Generator}
    (hg : Generator.start schema graph r.parameters = .ok g) :
    r.queries schema graph = g.queries := by
  rw [queries, hg]

theorem workload_of_start {g : Generator}
    (hg : Generator.start schema graph r.parameters = .ok g) :
    r.workload schema graph dialect = g.workload 1 dialect := by
  rw [workload, hg]

theorem run_traced (h : r.isWaiting = true) (schema : Schema) (graph : JoinGraph)
    (dialect : Dialect) (sink : Sink σ) (now : Calendar.Moment) (state : σ) :
    r.Traced (r.queries schema graph) dialect (r.feeds schema graph sink state)
      (r.calls schema graph dialect sink now state)
      (r.run schema graph dialect sink now state) := by
  obtain ⟨e, hruns, houtcome, hrequest⟩ := exists_runs h schema graph dialect sink now state
  have hcount : (r.run schema graph dialect sink now state).request.generatedCount =
      r.generatedCount + (r.calls schema graph dialect sink now state).countP (·.takes) := by
    rw [hrequest]
    rfl
  obtain ⟨hfeeds, hcalls, he⟩ | ⟨g, hfeeds, htables, hg, hfed⟩ := feeds_of_runs hruns
  · rw [hfeeds]
    rw [hcalls] at hcount ⊢
    refine ⟨by simp, .nil, by simp, by simp, hcount, ?_, ?_, by simp⟩
    · rw [hcount]
      exact Nat.add_le_add_left (Nat.zero_le _) _
    · intro hcompleted
      rw [houtcome] at hcompleted
      exact absurd (Except.ok.inj hcompleted) he
  · have hlength : (g.workload 1 dialect).length = r.parameters.numQueries := by
      rw [Generator.length_workload, Generator.remaining_start htables hg]
    rw [hfeeds, queries_of_start hg]
    refine ⟨fun _ _ => hfed.handed, hfed.no_more, fun _ => hfed.finished_last, ?_, hcount, ?_, ?_,
      ?_⟩
    · rintro (hfalse | hrefuses)
      · contradiction
      · exact hfed.not_finished hrefuses
    · rw [hcount, ← hlength]
      exact Nat.add_le_add_left hfed.countP_takes_le _
    · intro hcompleted
      rw [houtcome] at hcompleted
      rw [hcount, hfed.countP_takes_of_completed (Except.ok.inj hcompleted), hlength]
    · intro q hq herror
      obtain ⟨hle, htakes, hstatus⟩ := hfed.count_of_raised hq herror
      rw [Generator.remaining_start htables hg] at hle hstatus
      rw [houtcome, hstatus, hcount, htakes]
      exact ⟨hle, rfl, rfl⟩

end Request

theorem Request.run_traced_logs :
    twoLogs.isWaiting = true ∧
      (twoLogs.calls .logs (.build .logs) .ansi (.stopAfter 1) twoLogs.createdAt 0).map
        (·.query?.map (·.index)) = [some 1, none] ∧
      twoLogs.Traced (twoLogs.queries .logs (.build .logs)) .ansi true
        (twoLogs.calls .logs (.build .logs) .ansi (.stopAfter 1) twoLogs.createdAt 0)
        (twoLogs.run .logs (.build .logs) .ansi (.stopAfter 1) twoLogs.createdAt 0) := by
  have hfeeds : twoLogs.feeds .logs (.build .logs) (.stopAfter 1) 0 = true := by decide +kernel
  have traced := run_traced (r := twoLogs) (by decide) .logs (.build .logs) .ansi (.stopAfter 1)
    twoLogs.createdAt 0
  rw [hfeeds] at traced
  exact ⟨by decide, by decide +kernel, traced⟩

end SqlWorkload
