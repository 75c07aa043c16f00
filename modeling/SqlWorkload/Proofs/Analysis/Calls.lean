import SqlWorkload.Proofs.Analysis.Tables
/-!
# The calls of a survey

A survey has a plan: first the tables are listed, and then each of them is asked for in the order of
names, part by part. It keeps to the plan until a call fails in a way that nothing can be asked
after, and with that call it ends. A source is never asked the same twice, so that it makes no
difference whether it would answer another time as it did before.

    a failure is told by its cause if nobody is left to ask        (DatabaseError.ofDatabase_eq)
    x follows p, and f a follows p' for each a that x gives → x >>= f follows p ++ p'
                                                                  (Follows.bind)
    a survey of a table follows the calls about it                (Table.survey_follows)
    a survey of a schema follows the plan of its source           (Schema.survey_follows_plan)
-/

namespace SqlWorkload

/-! ## Plans -/

/-- The failure in an answer. -/
def failureIn {ε α : Type} : Except ε α → Option ε
  | .error e => some e
  | .ok _ => none

namespace DatabaseError

/-- The failures that leave nobody to ask. -/
def cutsOff : DatabaseError → Bool
  | connection _ => true
  | driver (.io _) | driver (.tls _) => true
  | driver .poolTimedOut | driver .poolClosed | driver .workerCrashed => true
  | _ => false

/-- The words of the database itself, without what the failure puts in front of them. -/
def cause : DatabaseError → String
  | driver e => e.message
  | config text | connection text | io text | csv text | general text => text

/-- What is told of a failure that ends a survey. -/
def told (e : DatabaseError) : AnalysisError :=
  if e.cutsOff then .connectionFailed e.cause else .metadataUnavailable e.message

theorem losesConnection_eq (e : DatabaseError) : e.losesConnection = e.cutsOff := by
  cases e with
  | driver e => cases e <;> rfl
  | _ => rfl

theorem ofDatabase_eq (e : DatabaseError) : .ofDatabase e = e.told := by
  cases e with
  | driver e => cases e <;> rfl
  | _ => rfl

end DatabaseError

/-- Whether a failure of the call ends a survey: without a list of tables there is none, and
without a connection there is nobody to ask. -/
def CatalogCall.isFatal : CatalogCall → DatabaseError → Bool
  | tables, _ => true
  | part _ _, e => e.cutsOff

namespace CatalogSource

/-- The failure that a call is answered with, if it is answered with one. -/
def failure? (source : CatalogSource) : CatalogCall → Option DatabaseError
  | .tables => failureIn source.tables
  | .part .columns table => failureIn (source.columns table)
  | .part .primaryKey table => failureIn (source.primaryKey table)
  | .part .foreignKeys table => failureIn (source.foreignKeys table)
  | .part .indexes table => failureIn (source.indexes table)
  | .part .rowEstimate table => failureIn (source.rowEstimate table)

/-- The failure of a call after which nothing can be asked. -/
def fatal? (source : CatalogSource) (c : CatalogCall) : Option DatabaseError :=
  (source.failure? c).filter c.isFatal

/-- The calls about a table. One whose columns are not known is not asked for anything else. -/
def callsFor (source : CatalogSource) (table : String) : List CatalogCall :=
  .part .columns table ::
    if (source.columns table).isOk then
      [.part .primaryKey table, .part .foreignKeys table, .part .indexes table,
        .part .rowEstimate table]
    else []

/-- All calls for the tables of these names. -/
def plan (source : CatalogSource) (names : List String) : List CatalogCall :=
  .tables :: names.flatMap source.callsFor

end CatalogSource

namespace Survey

variable {α β : Type} {source : CatalogSource}

/-- The calls of a survey are those of a plan, either up to the first fatal one, whose failure the
survey ends with, or all of them if none is fatal; then the survey has a result. -/
inductive Follows (source : CatalogSource) (x : Survey α) (plan : List CatalogCall) : Prop
  | ends (before after : List CatalogCall) (c : CatalogCall) (e : DatabaseError)
      (plan_eq : plan = before ++ c :: after) (harmless : ∀ b ∈ before, source.fatal? b = none)
      (fatal : source.fatal? c = some e) (calls_eq : x.calls = before ++ [c])
      (outcome_eq : x.outcome = .error e.told)
  | completes (a : α) (harmless : ∀ c ∈ plan, source.fatal? c = none) (calls_eq : x.calls = plan)
      (outcome_eq : x.outcome = .ok a)

/-- A survey that follows a plan fails exactly if one of the calls that it made was fatal. -/
theorem Follows.exists_error_iff {x : Survey α} {plan : List CatalogCall}
    (h : x.Follows source plan) :
    (∃ e, x.outcome = .error e) ↔ ∃ c ∈ x.calls, source.fatal? c ≠ none := by
  cases h with
  | ends before after c e _ _ fatal calls_eq outcome_eq =>
    refine ⟨fun _ => ⟨c, ?_, ?_⟩, fun _ => ⟨_, outcome_eq⟩⟩
    · simp [calls_eq]
    · simp [fatal]
  | completes a harmless calls_eq outcome_eq =>
    constructor
    · rintro ⟨e, he⟩
      rw [outcome_eq] at he
      contradiction
    · rintro ⟨c, hc, hfatal⟩
      exact absurd (harmless c (calls_eq ▸ hc)) hfatal

theorem follows_pure (a : α) : (pure a : Survey α).Follows source [] :=
  .completes a (by simp) rfl rfl

theorem Follows.bind {x : Survey α} {f : α → Survey β} {plan rest : List CatalogCall}
    (hx : x.Follows source plan) (hf : ∀ a, x.outcome = .ok a → (f a).Follows source rest) :
    (x >>= f).Follows source (plan ++ rest) := by
  cases hx with
  | ends before after c e plan_eq harmless fatal calls_eq outcome_eq =>
    rw [bind_error outcome_eq]
    exact .ends before (after ++ rest) c e (by simp [plan_eq]) harmless fatal calls_eq rfl
  | completes a harmless calls_eq outcome_eq =>
    rw [bind_ok outcome_eq]
    cases hf a outcome_eq with
    | ends before after c e plan_eq harmless' fatal calls_eq' outcome_eq' =>
      refine .ends (plan ++ before) after c e (by simp [plan_eq]) ?_ fatal
        (by simp [calls_eq, calls_eq']) outcome_eq'
      intro b hb
      rcases List.mem_append.1 hb with hb | hb
      · exact harmless b hb
      · exact harmless' b hb
    | completes b harmless' calls_eq' outcome_eq' =>
      refine .completes b ?_ (by simp [calls_eq, calls_eq']) outcome_eq'
      intro c hc
      rcases List.mem_append.1 hc with hc | hc
      · exact harmless c hc
      · exact harmless' c hc

theorem Follows.cons {x : Survey α} {f : α → Survey β} {c : CatalogCall} {rest : List CatalogCall}
    (hx : x.Follows source [c]) (hf : ∀ a, (f a).Follows source rest) :
    (x >>= f).Follows source (c :: rest) :=
  hx.bind fun a _ => hf a

/-- No call is made for what is only computed from a result. -/
theorem Follows.map {x : Survey α} {plan : List CatalogCall} (h : x.Follows source plan)
    (g : α → β) : (x >>= fun a => pure (g a)).Follows source plan := by
  simpa using h.bind fun a _ => follows_pure (g a)

theorem ask_follows (part : CatalogPart) (table : String) {answer : Except DatabaseError α}
    (h : source.failure? (.part part table) = failureIn answer) :
    (ask part table answer).Follows source [.part part table] := by
  cases answer with
  | ok a => exact .completes (some a) (by simp [CatalogSource.fatal?, h, failureIn]) rfl rfl
  | error e =>
    unfold ask
    simp only [AnalysisError.isConnectionFailed_iff, e.losesConnection_eq]
    cases he : e.cutsOff with
    | true =>
      refine .ends [] [] _ e rfl (by simp) ?_ rfl (congrArg Except.error e.ofDatabase_eq)
      simp [CatalogSource.fatal?, h, failureIn, CatalogCall.isFatal, he]
    | false =>
      refine .completes none ?_ rfl rfl
      simp [CatalogSource.fatal?, h, failureIn, CatalogCall.isFatal, he]

theorem listTables_follows : (listTables source.tables).Follows source [.tables] := by
  cases h : source.tables with
  | ok names =>
    refine .completes names ?_ rfl rfl
    simp [CatalogSource.fatal?, CatalogSource.failure?, h, failureIn]
  | error e =>
    refine .ends [] [] _ e rfl (by simp) ?_ rfl (congrArg Except.error e.ofDatabase_eq)
    simp [CatalogSource.fatal?, CatalogSource.failure?, h, failureIn, CatalogCall.isFatal]

end Survey

/-! ## Surveys and their plans -/

namespace CatalogSource

theorem nodup_callsFor (source : CatalogSource) (table : String) :
    (source.callsFor table).Nodup := by
  unfold callsFor
  split <;> simp

theorem mem_callsFor {source : CatalogSource} {table : String} {c : CatalogCall}
    (h : c ∈ source.callsFor table) : ∃ part, c = .part part table := by
  unfold callsFor at h
  split at h
  · simp only [List.mem_cons, List.not_mem_nil, or_false] at h
    rcases h with rfl | rfl | rfl | rfl | rfl <;> exact ⟨_, rfl⟩
  · exact ⟨_, List.mem_singleton.1 h⟩

/-- With each table named once, nothing is asked twice. -/
theorem nodup_plan (source : CatalogSource) {names : List String} (h : names.Nodup) :
    (source.plan names).Nodup := by
  refine List.nodup_cons.2 ⟨?_, List.pairwise_flatMap.2 ⟨fun t _ => source.nodup_callsFor t, ?_⟩⟩
  · intro hmem
    obtain ⟨t, -, hc⟩ := List.mem_flatMap.1 hmem
    obtain ⟨part, hpart⟩ := mem_callsFor hc
    cases hpart
  · refine h.imp fun hne c hc c' hc' hcc' => ?_
    obtain ⟨part, rfl⟩ := mem_callsFor hc
    obtain ⟨part', rfl⟩ := mem_callsFor hc'
    cases hcc'
    exact hne rfl

end CatalogSource

open Survey

namespace Table

theorem survey_follows (source : CatalogSource) (name : String) :
    (survey source name).Follows source (source.callsFor name) := by
  refine (ask_follows .columns name rfl).bind fun columns hcolumns => ?_
  obtain ⟨rfl, -⟩ := ask_eq_ok_iff.1 hcolumns
  cases source.columns name with
  | error e => exact follows_pure _
  | ok rows =>
    refine (ask_follows .primaryKey name rfl).cons fun key => ?_
    refine (ask_follows .foreignKeys name rfl).cons fun foreignKeys => ?_
    refine (ask_follows .indexes name rfl).cons fun indexes => ?_
    exact (ask_follows .rowEstimate name rfl).map _

theorem surveyAll_follows (source : CatalogSource) (names : List String) :
    (surveyAll source names).Follows source (names.flatMap source.callsFor) := by
  induction names with
  | nil => exact follows_pure []
  | cons name rest ih =>
    rw [List.flatMap_cons]
    exact (survey_follows source name).bind fun t _ => ih.map _

end Table

namespace Schema

/-- The tables that the source lists, in order and each once. -/
def listedNames (source : CatalogSource) : List String :=
  (OrderedSet.ofList (source.tables.toOption.getD [])).toList

theorem survey_follows (sourceName : String) (source : CatalogSource) (time : Calendar.Moment) :
    (survey sourceName source time).Follows source (source.plan (listedNames source)) := by
  have hplan (names : List String) :
      source.plan names = [.tables] ++ names.flatMap source.callsFor := rfl
  rw [hplan]
  refine listTables_follows.bind fun names hnames => ?_
  have hlisted : listedNames source = (OrderedSet.ofList names).toList := by
    rw [listedNames, listTables_eq_ok_iff.1 hnames]
    rfl
  rw [hlisted]
  exact (Table.surveyAll_follows source _).map _

theorem survey_follows_plan (sourceName : String) (source : CatalogSource)
    (time : Calendar.Moment) :
    ∃ names : List String,
      (names.Pairwise (· < ·) ∧
        ∀ name, name ∈ names ↔ ∃ listed, source.tables = .ok listed ∧ name ∈ listed) ∧
      (survey sourceName source time).Follows source (source.plan names) ∧
      (source.plan names).Nodup ∧
      ((∃ e, (survey sourceName source time).outcome = .error e) ↔
        ∃ c ∈ (survey sourceName source time).calls, source.fatal? c ≠ none) := by
  have hsorted : (listedNames source).Pairwise (· < ·) :=
    (OrderedMap.sorted_keys _).imp fun h => compareOfLessAndEq_eq_lt.1 h
  have hfollows := survey_follows sourceName source time
  refine ⟨listedNames source, ⟨hsorted, fun name => ?_⟩, hfollows,
    source.nodup_plan (hsorted.imp fun h => String.ne_of_lt h), hfollows.exists_error_iff⟩
  rw [listedNames, OrderedSet.mem_ofList]
  cases source.tables with
  | error e => simp [Except.toOption]
  | ok listed => simp [Except.toOption]

end Schema

end SqlWorkload
