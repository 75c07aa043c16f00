import SqlWorkload.Proofs.Files.Written
import SqlWorkload.Proofs.Query.LineEnds
/-!
# Statements as lines

Readers of the file of statements take its lines for the statements. A line end in a name is kept by
its quotes, and cuts the statement in two: the lines are the statements just if no name that is
written in them has one.

    each text with a line end after it → the lines are the texts ↔ no text has a line end
                                                                  (Text.hasLines_join)
    the lines of a file that a run has finished are its statements ↔ their names have no line end
                                                                  (Request.hasLines_iff)
    for that it is enough that no name of the schema has one      (Request.hasLines_of_names)
-/

namespace SqlWorkload

open Text

variable {σ : Type}

/-! ## Lines -/

namespace Text

/-- Cut at its line ends, of which the last one ends it, the text falls into those lines. -/
def HasLines (s : String) (lines : List String) : Prop :=
  s.toList.splitOn '\n' = lines.map (·.toList) ++ [[]]

instance (s : String) (lines : List String) : Decidable (HasLines s lines) :=
  inferInstanceAs (Decidable (_ = _))

theorem not_mem_of_mem_splitOn {α : Type} [DecidableEq α] {sep : α} {s piece : List α}
    (h : piece ∈ s.splitOn sep) : sep ∉ piece := by
  induction s generalizing piece with
  | nil =>
    rw [List.splitOn_nil, List.mem_singleton] at h
    simp [h]
  | cons a s ih =>
    rw [List.splitOn_cons_eq_if_modifyHead] at h
    split at h
    · rcases List.mem_cons.1 h with rfl | h
      · exact List.not_mem_nil
      · exact ih h
    · next hne =>
      cases hs : s.splitOn sep with
      | nil => exact absurd hs (List.splitOn_ne_nil sep s)
      | cons first rest =>
        rw [hs, List.modifyHead_cons] at h
        rcases List.mem_cons.1 h with rfl | h
        · rw [List.mem_cons, not_or]
          exact ⟨fun heq => hne (beq_iff_eq.2 heq.symm), ih (hs ▸ List.mem_cons_self)⟩
        · exact ih (hs ▸ List.mem_cons_of_mem _ h)

theorem splitOn_join (lines : List String) :
    (String.join (lines.map (· ++ "\n"))).toList.splitOn '\n' =
      lines.flatMap (·.toList.splitOn '\n') ++ [[]] := by
  induction lines with
  | nil => simp
  | cons s lines ih =>
    have hsplit : (s ++ "\n" ++ String.join (lines.map (· ++ "\n"))).toList =
        s.toList ++ '\n' :: (String.join (lines.map (· ++ "\n"))).toList := by simp
    rw [List.map_cons, String.join_cons, hsplit, List.splitOn_append_cons_self, ih,
      List.flatMap_cons, List.append_assoc]

theorem hasLines_join {lines : List String} :
    HasLines (String.join (lines.map (· ++ "\n"))) lines ↔ ∀ s ∈ lines, ¬ HasLineEnd s := by
  rw [HasLines, splitOn_join, List.append_cancel_right_eq]
  constructor
  · intro h s hs
    have hmem : s.toList ∈ lines.flatMap (·.toList.splitOn '\n') :=
      h ▸ List.mem_map_of_mem hs
    obtain ⟨t, -, hmem⟩ := List.mem_flatMap.1 hmem
    exact not_mem_of_mem_splitOn hmem
  · intro h
    rw [List.map_eq_flatMap]
    exact List.flatMap_congr fun s hs => List.splitOn_eq_singleton (h s hs)

end Text

/-! ## Workloads -/

namespace Generator

theorem exists_query_of_mem_workload {g : Generator} {index : Nat} {dialect : Dialect}
    {q : GeneratedQuery} (h : q ∈ g.workload index dialect) :
    q.query ∈ g.queries ∧ q.sql = dialect.render q.query := by
  obtain ⟨i, hi⟩ := List.mem_iff_getElem?.1 h
  obtain ⟨-, hsql, hquery⟩ := getElem?_workload.1 hi
  exact ⟨List.mem_of_getElem? hquery, hsql⟩

/-- The statements of a workload, or of the first queries of it, as lines. -/
theorem hasLines_of_prefix {g : Generator} {index : Nat} {dialect : Dialect}
    {w : List GeneratedQuery} (hw : w <+: g.workload index dialect) :
    HasLines (String.join (w.map fun q => q.sql ++ "\n")) (w.map (·.sql)) ↔
      ∀ q ∈ w, ∀ name ∈ dialect.writtenNames q.query, ¬ HasLineEnd name := by
  have hjoin := @hasLines_join (w.map (·.sql))
  rw [List.map_map] at hjoin
  refine hjoin.trans ?_
  rw [List.forall_mem_map]
  refine forall₂_congr fun q hq => ?_
  obtain ⟨hquery, hsql⟩ := exists_query_of_mem_workload (hw.subset hq)
  rw [hsql, hasLineEnd_render_of_mem_queries hquery]
  simp

end Generator

/-! ## Runs -/

namespace Request

variable {r : Request} {schema : Schema} {graph : JoinGraph} {dialect : Dialect} {sink : Sink σ}
  {now : Calendar.Moment} {state : σ} {files : σ → WorkloadFiles}

/-- What a run has written to a file of statements that was empty. -/
theorem exists_statements_of_finish (hsink : sink.Writes files)
    (hsql : (files state).sql.written = "")
    (hfinish : .finish (.ok ()) ∈ r.calls schema graph dialect sink now state) :
    ∃ g w, Generator.start schema graph r.parameters = .ok g ∧
      (r.calls schema graph dialect sink now state).filterMap (·.query?) = w ∧
      w <+: g.workload 1 dialect ∧
      (r.run schema graph dialect sink now state).request.generatedCount =
        r.generatedCount + w.length ∧
      (files (r.run schema graph dialect sink now state).state).sql.contents =
        String.join (w.map fun q => q.sql ++ "\n") := by
  obtain ⟨g, e, hg, hfeeds, hcount⟩ := exists_feeds_of_finish hfinish
  refine ⟨g, _, hg, hfeeds.handed_eq_take hfinish, List.take_prefix _ _, ?_, ?_⟩
  · rw [hcount, List.length_take_of_le hfeeds.countP_takes_le]
  · rw [hfeeds.files_eq hsink hfinish]
    show (BufferedFile.flush _).contents = _
    rw [BufferedFile.contents_flush, WorkloadFiles.sql_foldl_accept, hsql, String.empty_append]

/-- A run that has finished its sink counts the statements that it wrote, and these are the lines of
the file just if no name in them has a line end. -/
theorem hasLines_iff (hsink : sink.Writes files) (hsql : (files state).sql.written = "")
    (hfinish : .finish (.ok ()) ∈ r.calls schema graph dialect sink now state) :
    ∃ w, (r.calls schema graph dialect sink now state).filterMap (·.query?) = w ∧
      w <+: r.workload schema graph dialect ∧
      (r.run schema graph dialect sink now state).request.generatedCount =
        r.generatedCount + w.length ∧
      (HasLines (files (r.run schema graph dialect sink now state).state).sql.contents
          (w.map (·.sql)) ↔
        ∀ q ∈ w, ∀ name ∈ dialect.writtenNames q.query, ¬ HasLineEnd name) := by
  obtain ⟨g, w, hg, hhanded, hw, hcount, hcontents⟩ :=
    exists_statements_of_finish hsink hsql hfinish
  refine ⟨w, hhanded, ?_, hcount, ?_⟩
  · rw [workload_of_start hg]
    exact hw
  · rw [hcontents]
    exact Generator.hasLines_of_prefix hw

theorem hasLines_iff_logs :
    ∃ w, (twoLogs.calls .logs (.build .logs) .ansi (WorkloadFiles.stopAfter 1) twoLogs.createdAt
        (⟨"logs.sql", "logs.csv", {}, {}⟩, 0)).filterMap (·.query?) = w ∧
      w <+: twoLogs.workload .logs (.build .logs) .ansi ∧
      (twoLogs.run .logs (.build .logs) .ansi (WorkloadFiles.stopAfter 1) twoLogs.createdAt
        (⟨"logs.sql", "logs.csv", {}, {}⟩, 0)).request.generatedCount = 0 + w.length ∧
      (HasLines (twoLogs.run .logs (.build .logs) .ansi (WorkloadFiles.stopAfter 1)
          twoLogs.createdAt (⟨"logs.sql", "logs.csv", {}, {}⟩, 0)).state.1.sql.contents
          (w.map (·.sql)) ↔
        ∀ q ∈ w, ∀ name ∈ Dialect.ansi.writtenNames q.query, ¬ HasLineEnd name) := by
  have hsink : (WorkloadFiles.stopAfter 1).Writes Prod.fst :=
    ⟨fun h => congrArg (·.2.1) h.symm, fun h => congrArg (·.2.1) h.symm⟩
  exact hasLines_iff hsink rfl (by decide +kernel)

/-- One query over a table with a line end in its name. -/
theorem not_hasLines_of_line_end :
    let schema := Schema.analyzed "test"
      [{ name := "a\nb", space := "public", columns := [{ name := "id", dataType := "integer" }] }]
      (.newYear 2024)
    let r := Request.ofParameters ⟨0⟩ "w"
      { Parameters.plain 1 1 with maxPredicates := 0, maxAggregates := 0 } "test" (.newYear 2024)
    let state : WorkloadFiles := { sqlPath := "w.sql", csvPath := "w.csv" }
    let after := r.run schema (.build schema) .postgres WorkloadFiles.sink (.newYear 2024) state
    .finish (.ok ()) ∈
        r.calls schema (.build schema) .postgres WorkloadFiles.sink (.newYear 2024) state ∧
      after.request.generatedCount = 1 ∧
      after.state.sql.contents = "SELECT \"a\nb\".\"id\" FROM \"public\".\"a\nb\";\n" ∧
      ¬ HasLines after.state.sql.contents
        ((r.workload schema (.build schema) .postgres).map (·.sql)) := by
  decide +kernel

/-- Over a schema without line ends in its names the lines are always the statements. -/
theorem hasLines_of_names (hsink : sink.Writes files) (hsql : (files state).sql.written = "")
    (hs : schema.WellKeyed) (hnames : ∀ name ∈ schema.names, ¬ HasLineEnd name)
    (hfinish : .finish (.ok ()) ∈ r.calls schema (.build schema) dialect sink now state) :
    HasLines (files (r.run schema (.build schema) dialect sink now state).state).sql.contents
      (((r.calls schema (.build schema) dialect sink now state).filterMap (·.query?)).map
        (·.sql)) := by
  obtain ⟨g, w, hg, hhanded, hw, -, hcontents⟩ := exists_statements_of_finish hsink hsql hfinish
  rw [hcontents, hhanded, Generator.hasLines_of_prefix hw]
  intro q hq name hname
  obtain ⟨hquery, -⟩ := Generator.exists_query_of_mem_workload (hw.subset hq)
  exact hnames name (Generator.mem_names_of_mem_writtenNames hs hg hquery dialect name hname)

end Request

end SqlWorkload
