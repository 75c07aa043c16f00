import SqlWorkload.Analysis.Source
/-!
# Surveys

The analysis of a catalog: questions asked in order, with a record of the calls made and of the
answers done without. A lost connection ends a survey; any other failure about one table leaves a
part of that table out.

    x >>= f makes the calls of x, then those of f if x succeeds           (bind_ok)
    a survey that ended makes no more calls                               (bind_error)
-/

namespace SqlWorkload

/-! ## Surveys -/

/-- A failure that is put up with. -/
structure Warning where
  part : CatalogPart
  table : String
  error : AnalysisError
deriving DecidableEq, Repr

def Warning.message (w : Warning) : String :=
  "Failed to read " ++ w.part.label ++ " of " ++ w.table ++ ": " ++ w.error.message

structure Survey (α : Type) where
  outcome : Except AnalysisError α
  calls : List CatalogCall := []
  warnings : List Warning := []

namespace Survey

protected def pure {α : Type} (a : α) : Survey α := { outcome := .ok a }

protected def bind {α β : Type} (x : Survey α) (f : α → Survey β) : Survey β :=
  match x.outcome with
  | .error e => { outcome := .error e, calls := x.calls, warnings := x.warnings }
  | .ok a =>
    { outcome := (f a).outcome
      calls := x.calls ++ (f a).calls
      warnings := x.warnings ++ (f a).warnings }

instance : Monad Survey where
  pure := Survey.pure
  bind := Survey.bind

/-- The list of tables, without which there is no analysis. -/
def listTables (answer : Except DatabaseError (List String)) : Survey (List String) :=
  { outcome := answer.mapError AnalysisError.ofDatabase, calls := [.tables] }

/-- An answer about a table, if there is one; only a lost connection ends the survey. -/
def ask {α : Type} (part : CatalogPart) (table : String) (answer : Except DatabaseError α) :
    Survey (Option α) :=
  match answer with
  | .ok a => { outcome := .ok (some a), calls := [.part part table] }
  | .error e =>
    let failure := AnalysisError.ofDatabase e
    if failure.isConnectionFailed then
      { outcome := .error failure, calls := [.part part table] }
    else
      { outcome := .ok none, calls := [.part part table], warnings := [⟨part, table, failure⟩] }

end Survey

/-! ## Tables -/

/-- A length is kept if it is a 32-bit number. -/
def ColumnRow.column (r : ColumnRow) : Column :=
  { name := r.name
    dataType := r.dataType
    isNullable := r.isNullable
    maxLength := r.maxLength.filter fun n =>
      Int32.minValue.toInt ≤ n && n ≤ Int32.maxValue.toInt
    isAutoIncrement := r.isAutoIncrement }

/-- The rows without those whose name came before. -/
def dropRepeated (seen : List String) : List ColumnRow → List ColumnRow
  | [] => []
  | r :: rest =>
    if r.name ∈ seen then dropRepeated seen rest else r :: dropRepeated (r.name :: seen) rest

/-- The columns in the order of their ordinals; of two with one name the first counts. -/
def columnsOfRows (rows : List ColumnRow) : List Column :=
  (dropRepeated [] (rows.mergeSort fun a b => a.ordinal ≤ b.ordinal)).map (·.column)

namespace Table

def withColumns (t : Table) (rows : List ColumnRow) : Table :=
  (columnsOfRows rows).foldl pushColumn t

def withPrimaryKey (t : Table) (names : List String) : Table :=
  names.foldl (fun t name => t.updateColumn name fun c => { c with isPrimaryKey := true }) t

def withForeignKeys (t : Table) (rows : List ForeignKeyRow) : Table :=
  rows.foldl (fun t r => t.updateColumn r.column (·.setReference r.target)) t

def withIndexes (t : Table) (rows : List IndexRow) : Table :=
  rows.foldl (fun t r => t.updateColumn r.column (·.addIndex ⟨r.name, r.isUnique⟩)) t

/-- What a source tells of a table. Without its columns nothing else is asked. -/
def survey (source : CatalogSource) (name : String) : Survey Table := do
  let t : Table := { name := name, space := source.space }
  match ← Survey.ask .columns name (source.columns name) with
  | none => return t
  | some rows =>
    let t := t.withColumns rows
    let key ← Survey.ask .primaryKey name (source.primaryKey name)
    let t := t.withPrimaryKey (key.getD [])
    let foreignKeys ← Survey.ask .foreignKeys name (source.foreignKeys name)
    let t := t.withForeignKeys (foreignKeys.getD [])
    let indexes ← Survey.ask .indexes name (source.indexes name)
    let t := t.withIndexes (indexes.getD [])
    let estimate ← Survey.ask .rowEstimate name (source.rowEstimate name)
    return { t with rowEstimate := estimate.join }

def surveyAll (source : CatalogSource) : List String → Survey (List Table)
  | [] => return []
  | name :: rest => do
    let t ← survey source name
    return t :: (← surveyAll source rest)

end Table

/-! ## Schemas -/

/-- Surveys the tables of a source by name, each once. -/
def Schema.survey (sourceName : String) (source : CatalogSource) (time : Calendar.Moment) :
    Survey Schema := do
  let names ← Survey.listTables source.tables
  let tables ← Table.surveyAll source (OrderedSet.ofList names).toList
  return .analyzed sourceName tables time

/-! ## Lemmas -/

namespace Survey

theorem bind_error {α β : Type} {x : Survey α} {e : AnalysisError} (h : x.outcome = .error e)
    (f : α → Survey β) : x >>= f = ⟨.error e, x.calls, x.warnings⟩ := by
  simp only [bind, Survey.bind, h]

theorem bind_ok {α β : Type} {x : Survey α} {a : α} (h : x.outcome = .ok a)
    (f : α → Survey β) :
    x >>= f = ⟨(f a).outcome, x.calls ++ (f a).calls, x.warnings ++ (f a).warnings⟩ := by
  simp only [bind, Survey.bind, h]

end Survey

end SqlWorkload
