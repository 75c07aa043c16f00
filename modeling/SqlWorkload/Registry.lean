import SqlWorkload.Analysis.Survey
import SqlWorkload.JoinGraph
/-!
# The registry

The latest analysis of each source. An analysis that fails leaves what was published before. A
snapshot is numbered when it is published, so that one can tell it from a later equal one.

    (r.publish key s).snapshot? key = some (its snapshot)         (snapshot?_publish)
    key ∈ r.sources ↔ a snapshot is published under key            (mem_sources_iff)
-/

namespace SqlWorkload

/-! ## Algorithm -/

/-- A schema with its join graph. -/
structure Snapshot where
  schema : Schema
  graph : JoinGraph
deriving DecidableEq

/-- A snapshot with the number of its publication. -/
structure Publication where
  number : Nat
  snapshot : Snapshot
deriving DecidableEq

structure Registry where
  published : NameMap Publication := OrderedMap.empty
  count : Nat := 0
deriving DecidableEq

def Snapshot.ofSchema (s : Schema) : Snapshot := ⟨s, .build s⟩

namespace Registry

def publish (r : Registry) (key : String) (s : Schema) : Registry :=
  { published := r.published.insert key ⟨r.count, .ofSchema s⟩, count := r.count + 1 }

def snapshot? (r : Registry) (key : String) : Option Publication := r.published.get? key

/-- The keys that something was published under, in order. -/
def sources (r : Registry) : List String := r.published.keys

/-- Analyzes a source and publishes the result under `key`. -/
def analyze (r : Registry) (key : String) (source : CatalogSource) (time : Calendar.Moment) :
    Except AnalysisError Publication × Registry :=
  match (Schema.survey key source time).outcome with
  | .error e => (.error e, r)
  | .ok s => (.ok ⟨r.count, .ofSchema s⟩, r.publish key s)

/-! ## Lemmas -/

@[simp] theorem snapshot?_publish (r : Registry) (key k : String) (s : Schema) :
    (r.publish key s).snapshot? k =
      if key = k then some ⟨r.count, .ofSchema s⟩ else r.snapshot? k := by
  simp [publish, snapshot?]

theorem mem_sources_iff {r : Registry} {key : String} :
    key ∈ r.sources ↔ ∃ p, r.snapshot? key = some p :=
  OrderedMap.mem_keys_iff

end Registry

end SqlWorkload
