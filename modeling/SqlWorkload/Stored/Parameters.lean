import SqlWorkload.Json.Record
import SqlWorkload.Json.Reader
import SqlWorkload.Parameters
/-!
# Stored parameters

The document form of generation parameters: a record whose fields may all be left out. Reading
checks the parameters once they have been read whole.
-/

namespace SqlWorkload

/-- Why a document cannot be read. -/
inductive ReadError where
  | malformed
  | invalidParameters (e : ParameterError)
deriving DecidableEq, Repr

/-- The value, or the document is malformed. -/
def orMalformed {α : Type} : Option α → Except ReadError α
  | some a => .ok a
  | none => .error .malformed

namespace Parameters

def fieldNames : List String :=
  ["num_queries", "max_predicates", "max_aggregates", "max_joins", "seed", "use_index_hints",
    "index_hint_probability", "no_index_hint_probability", "use_physical_operator_hints",
    "physical_operator_hint_probability"]

/-- A field that may be left out. -/
def fieldOr {α : Type} (r : Json.Record) (name : String) (f : Json → Option α) (default : α) :
    Option α :=
  match r.get? name with
  | none => some default
  | some j => f j

def Stated.ofRecord? (r : Json.Record) : Option Stated := do
  let d : Stated := {}
  return {
    numQueries := ← fieldOr r "num_queries" (·.int64?) d.numQueries
    maxPredicates := ← fieldOr r "max_predicates" (·.int64?) d.maxPredicates
    maxAggregates := ← fieldOr r "max_aggregates" (·.int64?) d.maxAggregates
    maxJoins := ← fieldOr r "max_joins" (·.int64?) d.maxJoins
    seed := ← fieldOr r "seed" (·.int64?) d.seed
    useIndexHints := ← fieldOr r "use_index_hints" (·.bool?) d.useIndexHints
    indexHintProbability :=
      ← fieldOr r "index_hint_probability" (·.binary64?) d.indexHintProbability
    noIndexHintProbability :=
      ← fieldOr r "no_index_hint_probability" (·.binary64?) d.noIndexHintProbability
    usePhysicalOperatorHints :=
      ← fieldOr r "use_physical_operator_hints" (·.bool?) d.usePhysicalOperatorHints
    physicalOperatorHintProbability :=
      ← fieldOr r "physical_operator_hint_probability" (·.binary64?)
        d.physicalOperatorHintProbability }

/-- Parameters as a document states them; a list may leave out any number of its last fields. -/
def Stated.ofJson? (j : Json) : Option Stated := do
  let r ← Json.Record.of? fieldNames fieldNames.length j
  if r.isSound then ofRecord? r else none

def ofJson (j : Json) : Except ReadError Parameters :=
  match Stated.ofJson? j with
  | none => .error .malformed
  | some p => p.checked.mapError .invalidParameters

/-- Parameters from a text with nothing else in it. What follows the value is looked at last. -/
def ofText (s : String) : Except ReadError Parameters := do
  let (j, alone) := Json.read s
  let p ← ofJson j
  if alone then return p else throw .malformed

def toJson (p : Parameters) : Json :=
  .record [
    ("num_queries", .ofNat p.numQueries),
    ("max_predicates", .ofNat p.maxPredicates),
    ("max_aggregates", .ofNat p.maxAggregates),
    ("max_joins", .ofNat p.maxJoins),
    ("seed", .ofNat p.seed.toNat),
    ("use_index_hints", .boolean p.useIndexHints),
    ("index_hint_probability", .ofBinary64 p.indexHintProbability),
    ("no_index_hint_probability", .ofBinary64 p.noIndexHintProbability),
    ("use_physical_operator_hints", .boolean p.usePhysicalOperatorHints),
    ("physical_operator_hint_probability", .ofBinary64 p.physicalOperatorHintProbability)]

end Parameters

end SqlWorkload
