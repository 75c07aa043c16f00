import SqlWorkload.Setup.ConnectOptions
/-!
# Connections

Connections, and the key under which the catalog of a connection is filed. The key leaves out the
credentials of the URL: all that stands between `://` and the last at sign.

    afterLastAt (user ++ "@" ++ rest) = rest, for a rest without "@"   (afterLastAt_append)
-/

namespace SqlWorkload

/-! ## Algorithm -/

def defaultSpace : String := "public"

structure Connection where
  engine : Engine
  url : String
  /-- The namespace to analyze. -/
  space : String := defaultSpace
deriving DecidableEq, Repr

namespace Connection

/-- The text before the first `://` and the text after it. -/
def splitScheme : List Char → Option (List Char × List Char)
  | ':' :: '/' :: '/' :: rest => some ([], rest)
  | c :: rest => (splitScheme rest).map fun (scheme, rest) => (c :: scheme, rest)
  | [] => none

/-- The text after the last at sign; the whole text if there is none. -/
def afterLastAt (s : List Char) : List Char := (s.reverse.takeWhile (· != '@')).reverse

/-- The URL without the credentials in it. -/
def redact (url : List Char) : List Char :=
  match splitScheme url with
  | some (scheme, rest) => scheme ++ ':' :: '/' :: '/' :: afterLastAt rest
  | none => url

/-- The key of the source that the connection leads to. -/
def sourceKey (c : Connection) : String :=
  c.engine.name ++ ":" ++ String.ofList (redact c.url.toList) ++ "/" ++ c.space

/-- What can be said against a connection before it is opened: that there is no catalog reader for
its engine, or that the driver of the engine does not take its URL. -/
def refusal (c : Connection) : Option AnalysisError :=
  if c.engine = .sqlite then some (.unsupportedEngine c.engine.name)
  else
    (ConnectOptions.fault? c.engine c.url).map fun e =>
      .ofDatabase (.connection (DriverError.configuration e.message).message)

/-! ## Lemmas -/

theorem forall_ne_at {s : List Char} (h : '@' ∉ s) : ∀ c ∈ s.reverse, (c != '@') = true :=
  fun c hc => by simp only [bne_iff_ne, ne_eq]; rintro rfl; exact h (List.mem_reverse.1 hc)

theorem afterLastAt_of_not_mem {s : List Char} (h : '@' ∉ s) : afterLastAt s = s := by
  have := @List.takeWhile_append_of_pos _ _ _ [] (forall_ne_at h)
  simp only [List.append_nil, List.takeWhile_nil] at this
  simp [afterLastAt, this]

theorem afterLastAt_append {s t : List Char} (h : '@' ∉ t) : afterLastAt (s ++ '@' :: t) = t := by
  simp [afterLastAt, List.takeWhile_append_of_pos (forall_ne_at h)]

end Connection

end SqlWorkload
