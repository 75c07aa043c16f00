import SqlWorkload.Files.WorkloadFiles
import SqlWorkload.Proofs.Request.Trace
import SqlWorkload.Proofs.Text.CsvReader
/-!
# What a run leaves in its files

A sink writes to files if each query that it takes is accepted there and finishing it flushes them.
It may fail at any call, and there may be more in its state than the files. When a run has finished
such a sink, the files hold the queries that it took, as the statements in the one and as the
records of the other.

    statements are in the file one after the other                    (sql_foldl_accept)
    after the header there is a record for each query                 (manifest_foldl_accept)
    a sink that is finished has accepted what it took, and flushed    (Feeds.files_eq)
    the files after a run hold the first queries of its workload      (Request.run_leaves)
-/

namespace SqlWorkload

variable {σ : Type}

/-- The sink writes to the files that are part of its state. -/
structure Sink.Writes (sink : Sink σ) (files : σ → WorkloadFiles) : Prop where
  accept : ∀ {q state state'}, sink.accept q state = (.ok (), state') →
    files state' = (files state).accept q
  finish : ∀ {state state'}, sink.finish state = (.ok (), state') →
    files state' = (files state).flush

namespace WorkloadFiles

/-- What is in the files: the statements, each with a line end, and a table with a header and a row
for each query. -/
structure Holds (f : WorkloadFiles) (l : List GeneratedQuery) : Prop where
  sql_eq : f.sql.contents = String.join (l.map fun q => q.sql ++ "\n")
  manifest_eq : Text.Csv.read f.manifest.contents =
    some (["index", "tables", "joins", "predicates", "aggregates", "hints", "sql"] ::
      l.mapIdx fun i q =>
        [toString (i + 1), " ".intercalate q.query.tables, toString q.query.joins.length,
          toString q.query.predicates.length, toString q.query.aggregates.length,
          toString q.query.hints.length, q.sql])

theorem sink_writes : sink.Writes id where
  accept h := (Prod.mk.inj h).2.symm
  finish h := (Prod.mk.inj h).2.symm

/-! ## Statements -/

theorem sql_foldl_accept (l : List GeneratedQuery) (f : WorkloadFiles) :
    (l.foldl accept f).sql.written =
      f.sql.written ++ String.join (l.map fun q => q.sql ++ "\n") := by
  induction l generalizing f with
  | nil => simp
  | cons q rest ih => rw [List.foldl_cons, ih, sql_accept, List.map_cons, String.join_cons,
      String.append_assoc, String.append_assoc, String.append_assoc]

/-! ## Records -/

theorem record_ne_empty (fields : List String) : Text.Csv.record fields ≠ "" := by
  intro h
  have hlist := congrArg String.toList h
  simp [Text.Csv.record] at hlist

theorem manifest_accept {f : WorkloadFiles} (h : f.manifest.written ≠ "") (q : GeneratedQuery) :
    (f.accept q).manifest.written =
      f.manifest.written ++ Text.Csv.record (manifestRecord q) := by
  simp [accept, describe, writeRecord, h]

theorem manifest_foldl_accept_of_ne {f : WorkloadFiles} (h : f.manifest.written ≠ "")
    (l : List GeneratedQuery) : (l.foldl accept f).manifest.written =
      f.manifest.written ++ String.join (l.map fun q => Text.Csv.record (manifestRecord q)) := by
  induction l generalizing f with
  | nil => simp
  | cons q rest ih =>
    have hnext := manifest_accept h q
    rw [List.foldl_cons, ih (by simp [hnext, h]), hnext, List.map_cons, String.join_cons,
      String.append_assoc]

theorem manifest_foldl_accept {f : WorkloadFiles} (h : f.manifest.written = "")
    {l : List GeneratedQuery} (hl : l ≠ []) : (l.foldl accept f).manifest.written =
      String.join ((manifestHeader :: l.map manifestRecord).map Text.Csv.record) := by
  cases l with
  | nil => contradiction
  | cons q rest =>
    have hfirst : (f.accept q).manifest.written =
        Text.Csv.record manifestHeader ++ Text.Csv.record (manifestRecord q) := by
      simp [accept, describe, writeRecord, h]
    rw [List.foldl_cons, manifest_foldl_accept_of_ne (by simp [hfirst, record_ne_empty]), hfirst]
    simp [String.join_cons, String.append_assoc, Function.comp_def]

theorem count_eq_toString (n : Nat) : count n = toString n := by
  rw [count, Text.intText, if_neg (by omega)]
  rfl

theorem joinWith_eq_intercalate (sep : String) (l : List String) :
    Text.joinWith sep l = sep.intercalate l := by
  rw [← String.toList_inj, String.toList_intercalate]
  induction l with
  | nil => rfl
  | cons s rest ih =>
    cases rest with
    | nil => simp [Text.joinWith]
    | cons t rest => simp_all [Text.joinWith, List.intercalate]

theorem manifestRecord_eq (q : GeneratedQuery) : manifestRecord q =
    [toString q.index, " ".intercalate q.query.tables, toString q.query.joins.length,
      toString q.query.predicates.length, toString q.query.aggregates.length,
      toString q.query.hints.length, q.sql] := by
  simp only [manifestRecord, count_eq_toString, joinWith_eq_intercalate]

/-- Files that were empty hold what has been accepted since, once they are flushed. -/
theorem holds_flush {f : WorkloadFiles} (hsql : f.sql.written = "") (hcsv : f.manifest.written = "")
    {l : List GeneratedQuery} (hl : l ≠ []) (hindex : ∀ i (h : i < l.length), l[i].index = i + 1) :
    (l.foldl accept f).flush.Holds l := by
  have hfields : ∀ fields ∈ manifestHeader :: l.map manifestRecord, fields ≠ [] := by
    simp [manifestHeader, manifestRecord]
  constructor
  · show (l.foldl accept f).sql.flush.contents = _
    rw [BufferedFile.contents_flush, sql_foldl_accept, hsql, String.empty_append]
  · show Text.Csv.read (l.foldl accept f).manifest.flush.contents = _
    rw [BufferedFile.contents_flush, manifest_foldl_accept hcsv hl, Text.Csv.read_records hfields]
    congr 2
    apply List.ext_getElem
    · simp
    · intro i h _
      simp [manifestRecord_eq, hindex]

end WorkloadFiles

/-! ## Runs -/

namespace Feeds

variable {sink : Sink σ} {w : List GeneratedQuery} {state state' : σ} {calls : List SinkCall}
  {e : Ending}

/-- Before a sink is finished it has refused nothing, so that all that it was handed it took. -/
theorem handed_eq_take (h : Feeds sink w state calls e state')
    {answer : Except GenerationError Unit} (hfinish : .finish answer ∈ calls) :
    calls.filterMap (·.query?) = w.take (calls.countP (·.takes)) := by
  induction h with
  | finished h => rfl
  | stopped hup h => rfl
  | refused hdown h => simp at hfinish
  | taken hdown h tail ih =>
    simp only [List.mem_cons, reduceCtorEq, false_or] at hfinish
    rw [List.countP_cons, SinkCall.takes_accept_ok, List.filterMap_cons, SinkCall.query?_accept,
      ih hfinish]
    rfl

theorem files_eq (h : Feeds sink w state calls e state') {files : σ → WorkloadFiles}
    (hsink : sink.Writes files) (hfinish : .finish (.ok ()) ∈ calls) :
    files state' = ((w.take (calls.countP (·.takes))).foldl .accept (files state)).flush := by
  induction h with
  | finished h =>
    rw [List.mem_singleton, SinkCall.finish.injEq] at hfinish
    exact hsink.finish (hfinish ▸ h)
  | stopped hup h =>
    rw [List.mem_singleton, SinkCall.finish.injEq] at hfinish
    exact hsink.finish (hfinish ▸ h)
  | refused hdown h => simp at hfinish
  | taken hdown h tail ih =>
    simp only [List.mem_cons, reduceCtorEq, false_or] at hfinish
    rw [ih hfinish, hsink.accept h, List.countP_cons, SinkCall.takes_accept_ok]
    rfl

end Feeds

namespace Request

variable {r : Request} {schema : Schema} {graph : JoinGraph} {dialect : Dialect} {sink : Sink σ}
  {now : Calendar.Moment} {state : σ}

/-- Only a run that feeds its sink finishes it. -/
theorem exists_feeds_of_finish {answer : Except GenerationError Unit}
    (hfinish : .finish answer ∈ r.calls schema graph dialect sink now state) : ∃ g e,
    Generator.start schema graph r.parameters = .ok g ∧
      Feeds sink (g.workload 1 dialect) state (r.calls schema graph dialect sink now state) e
        (r.run schema graph dialect sink now state).state ∧
      (r.run schema graph dialect sink now state).request.generatedCount =
        r.generatedCount + (r.calls schema graph dialect sink now state).countP (·.takes) := by
  have hr : r.isWaiting = true := by
    by_contra hbusy
    rw [calls_eq_nil_of_not_isWaiting (Bool.eq_false_iff.2 hbusy)] at hfinish
    contradiction
  obtain ⟨e, hruns, -, hrequest⟩ := exists_runs hr schema graph dialect sink now state
  obtain ⟨-, hcalls, -⟩ | ⟨g, -, -, hg, hfeeds⟩ := feeds_of_runs hruns
  · rw [hcalls] at hfinish
    contradiction
  · refine ⟨g, e, hg, hfeeds, ?_⟩
    rw [hrequest]
    rfl

/-- A run that took queries and finished its sink leaves just these in files that were empty, and
counts as many. -/
theorem run_leaves {files : σ → WorkloadFiles} (hsink : sink.Writes files)
    (hsql : (files state).sql.written = "") (hcsv : (files state).manifest.written = "")
    (hfinish : .finish (.ok ()) ∈ r.calls schema graph dialect sink now state)
    (htakes : 0 < (r.calls schema graph dialect sink now state).countP (·.takes)) :
    ∃ w, (r.calls schema graph dialect sink now state).filterMap (·.query?) = w ∧
      w <+: r.workload schema graph dialect ∧
      (r.run schema graph dialect sink now state).request.generatedCount =
        r.generatedCount + w.length ∧
      (files (r.run schema graph dialect sink now state).state).Holds w := by
  obtain ⟨g, e, hg, hfeeds, hcount⟩ := exists_feeds_of_finish hfinish
  have hlength := List.length_take_of_le hfeeds.countP_takes_le
  have hne := List.ne_nil_of_length_pos (hlength.symm ▸ htakes)
  refine ⟨_, hfeeds.handed_eq_take hfinish, ?_, ?_, ?_⟩
  · rw [workload_of_start hg]
    exact List.take_prefix _ _
  · rw [hcount, hlength]
  · rw [hfeeds.files_eq hsink hfinish]
    refine WorkloadFiles.holds_flush hsql hcsv hne fun i h => ?_
    rw [List.getElem_take, Nat.add_comm]
    exact (Generator.getElem?_workload.1 (List.getElem?_eq_getElem _)).1

end Request

/-- Writes to files, and asks to stop after the `k`-th query. -/
def WorkloadFiles.stopAfter (k : Nat) : Sink (WorkloadFiles × Nat) where
  accept q s := (.ok (), s.1.accept q, s.2 + 1)
  finish s := (.ok (), s.1.flush, s.2)
  isCancelled s := s.2 == k

theorem Request.run_leaves_logs :
    ∃ w, (twoLogs.calls .logs (.build .logs) .ansi (WorkloadFiles.stopAfter 1) twoLogs.createdAt
        (⟨"logs.sql", "logs.csv", {}, {}⟩, 0)).filterMap (·.query?) = w ∧
      w <+: twoLogs.workload .logs (.build .logs) .ansi ∧
      (twoLogs.run .logs (.build .logs) .ansi (WorkloadFiles.stopAfter 1) twoLogs.createdAt
        (⟨"logs.sql", "logs.csv", {}, {}⟩, 0)).request.generatedCount = 0 + w.length ∧
      (twoLogs.run .logs (.build .logs) .ansi (WorkloadFiles.stopAfter 1) twoLogs.createdAt
        (⟨"logs.sql", "logs.csv", {}, {}⟩, 0)).state.1.Holds w := by
  have hsink : (WorkloadFiles.stopAfter 1).Writes Prod.fst :=
    ⟨fun h => congrArg (·.2.1) h.symm, fun h => congrArg (·.2.1) h.symm⟩
  exact run_leaves hsink rfl rfl (by decide +kernel) (by decide +kernel)

end SqlWorkload
