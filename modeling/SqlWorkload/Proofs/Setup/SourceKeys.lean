import Mathlib.Data.List.Infix
import SqlWorkload.Setup.Connection
/-!
# Which sources have one key

The key of a source is put together from the engine, the URL without its credentials and the
namespace. Nothing in it shows where the URL ends and the namespace begins, and what is left out of
the URL ends at its last at sign, wherever that stands. So a key tells a source from all others if
the namespace has no slash and the URL no at sign behind its authority, and otherwise it may not.

    a slash parts two texts in one way, or in two ways with the same piece between them
                                                                  (append_cons_eq_iff)
    the scheme of a URL ends at the first `://`                   (splitScheme_eq)
    what is left of a URL is all but the user information ↔ there is no at sign behind the authority
                                                                  (redacted_eq_bare_iff)
    when two connections have one key, in general and if both are plain
                                                                  (sourceKey_eq_iff)
-/

namespace SqlWorkload

theorem append_cons_eq_iff {α : Type} {c : α} {a b a' b' : List α} :
    a ++ c :: b = a' ++ c :: b' ↔
      (a = a' ∧ b = b') ∨ (∃ t, a' = a ++ c :: t ∧ b = t ++ c :: b') ∨
        ∃ t, a = a' ++ c :: t ∧ b' = t ++ c :: b := by
  constructor
  · intro h
    rcases List.append_eq_append_iff.1 h with ⟨t, ha, hb⟩ | ⟨t, ha, hb⟩
    · cases t with
      | nil =>
        rw [List.append_nil] at ha
        exact .inl ⟨ha.symm, (List.cons.inj hb).2⟩
      | cons d t =>
        obtain ⟨rfl, htail⟩ := List.cons.inj hb
        exact .inr (.inl ⟨t, ha, htail⟩)
    · cases t with
      | nil =>
        rw [List.append_nil] at ha
        exact .inl ⟨ha, (List.cons.inj hb).2.symm⟩
      | cons d t =>
        obtain ⟨rfl, htail⟩ := List.cons.inj hb
        exact .inr (.inr ⟨t, ha, htail⟩)
  · rintro (⟨rfl, rfl⟩ | ⟨t, rfl, rfl⟩ | ⟨t, rfl, rfl⟩) <;> simp

namespace Connection

/-! ## Parts of a URL -/

/-- What stands between `://` and the path, the query or the fragment. -/
def authority (rest : List Char) : List Char := rest.takeWhile fun c => !Url.Form.general.isEnd c

/-- Path, query and fragment. -/
def behindAuthority (rest : List Char) : List Char :=
  rest.dropWhile fun c => !Url.Form.general.isEnd c

/-- What stands between the scheme of a URL and the rest. -/
def separator : List Char := [':', '/', '/']

/-- The number of characters before the first `://`. -/
def schemeEnd? (url : List Char) : Option Nat := url.tails.findIdx? (separator.isPrefixOf ·)

/-- A URL without its user information, which is all of the authority up to its last at sign. -/
def withoutUser (url : List Char) : List Char :=
  match schemeEnd? url with
  | some n =>
    let rest := url.drop (n + 3)
    url.take n ++ ':' :: '/' :: '/' :: (afterLastAt (authority rest) ++ behindAuthority rest)
  | none => url

/-- The part of the URL that has no place for credentials; none if there is no authority. -/
def tail (url : List Char) : List Char :=
  match schemeEnd? url with
  | some n => behindAuthority (url.drop (n + 3))
  | none => []

/-- The URL as it stands in the key. -/
def redacted (c : Connection) : String := String.ofList (redact c.url.toList)

/-- The URL without its user information. -/
def bare (c : Connection) : String := String.ofList (withoutUser c.url.toList)

/-- A connection with no at sign behind the authority of its URL, and no slash in its namespace. -/
structure IsPlain (c : Connection) : Prop where
  at_not_mem : '@' ∉ tail c.url.toList
  slash_not_mem : '/' ∉ c.space.toList

/-- The URL of the second connection is that of the first, and after a slash the front of the
namespace, which the second then does without. -/
def Shifts (c c' : Connection) : Prop :=
  ∃ front : String, c'.redacted = c.redacted ++ "/" ++ front ∧ c.space = front ++ "/" ++ c'.space

/-! ## The scheme -/

theorem splitScheme_eq (url : List Char) :
    splitScheme url = (schemeEnd? url).map fun n => (url.take n, url.drop (n + 3)) := by
  unfold schemeEnd?
  fun_induction splitScheme url with
  | case1 rest => rfl
  | case2 c rest hne ih =>
    have hnot : separator.isPrefixOf (c :: rest) = false := by
      rw [Bool.eq_false_iff, Ne, List.isPrefixOf_iff_prefix]
      rintro ⟨back, hback⟩
      obtain ⟨hc, hrest⟩ := List.cons.inj hback
      exact hne back hc.symm hrest.symm
    rw [ih, List.tails_cons, List.findIdx?_cons, hnot, Option.map_map]
    simp [Option.map_map, Function.comp_def]
  | case3 => rfl

/-! ## At signs -/

theorem afterLastAt_append_of_not_mem {s t : List Char} (h : '@' ∉ t) :
    afterLastAt (s ++ t) = afterLastAt s ++ t := by
  simp [afterLastAt, List.takeWhile_append_of_pos (forall_ne_at h)]

/-- A text with at signs, parted at the last of them. -/
theorem exists_last_at {t : List Char} (h : '@' ∈ t) :
    ∃ front back, t = front ++ '@' :: back ∧ '@' ∉ back := by
  obtain ⟨back, front, hback, hmem⟩ := List.eq_append_cons_of_mem (List.mem_reverse.2 h)
  refine ⟨front.reverse, back.reverse, ?_, mt List.mem_reverse.1 hmem⟩
  rw [← List.reverse_reverse t, hback]
  simp

/-- The last at sign and all that is before it are left out. -/
theorem length_afterLastAt_append_lt {s t : List Char} (h : '@' ∈ t) :
    (afterLastAt (s ++ t)).length < t.length := by
  obtain ⟨front, back, rfl, hback⟩ := exists_last_at h
  rw [← List.append_assoc, afterLastAt_append hback]
  simp
  omega

theorem redacted_eq_bare_iff (c : Connection) :
    c.redacted = c.bare ↔ '@' ∉ tail c.url.toList := by
  rw [redacted, bare, String.ofList_inj]
  unfold redact withoutUser tail
  rw [splitScheme_eq]
  cases schemeEnd? c.url.toList with
  | none => simp
  | some n =>
    dsimp only [Option.map_some]
    generalize c.url.toList.drop (n + 3) = rest
    have hrest : rest = authority rest ++ behindAuthority rest :=
      List.takeWhile_append_dropWhile.symm
    simp only [List.append_cancel_left_eq, List.cons.injEq, true_and]
    constructor
    · intro heq hat
      have hlt := length_afterLastAt_append_lt (s := authority rest) hat
      rw [← hrest, heq, List.length_append] at hlt
      omega
    · intro hat
      rw [← afterLastAt_append_of_not_mem hat, ← hrest]

/-! ## Keys -/

/-- No engine has a name that could be taken for that of another with something after it. -/
theorem name_append_inj {e e' : Engine} {s t : String}
    (h : e.name ++ ":" ++ s = e'.name ++ ":" ++ t) : e = e' ∧ s = t := by
  rw [← String.toList_inj] at h
  cases e <;> cases e' <;> simp_all [Engine.name, ← String.toList_inj]

/-- Engines are told apart by the front of the key; URL and namespace are one text in it. -/
theorem sourceKey_eq_iff_texts (c c' : Connection) :
    c.sourceKey = c'.sourceKey ↔ c.engine = c'.engine ∧
      c.redacted.toList ++ '/' :: c.space.toList =
        c'.redacted.toList ++ '/' :: c'.space.toList := by
  have htext (c : Connection) : c.sourceKey =
      c.engine.name ++ ":" ++ String.ofList (c.redacted.toList ++ '/' :: c.space.toList) := by
    simp [sourceKey, redacted, ← String.toList_inj]
  rw [htext, htext]
  constructor
  · intro h
    obtain ⟨hengine, hrest⟩ := name_append_inj h
    exact ⟨hengine, String.ofList_inj.1 hrest⟩
  · rintro ⟨hengine, hrest⟩
    rw [hengine, hrest]

theorem shifts_iff (c c' : Connection) :
    c.Shifts c' ↔ ∃ t, c'.redacted.toList = c.redacted.toList ++ '/' :: t ∧
      c.space.toList = t ++ '/' :: c'.space.toList := by
  constructor
  · rintro ⟨front, hurl, hspace⟩
    exact ⟨front.toList, by simp [hurl], by simp [hspace]⟩
  · rintro ⟨t, hurl, hspace⟩
    refine ⟨String.ofList t, ?_, ?_⟩
    · simp [← String.toList_inj, hurl]
    · simp [← String.toList_inj, hspace]

/-- Nothing can be taken from the front of a namespace without a slash. -/
theorem IsPlain.not_shifts {c : Connection} (h : c.IsPlain) (c' : Connection) : ¬ c.Shifts c' := by
  rw [shifts_iff]
  rintro ⟨t, -, hspace⟩
  exact h.slash_not_mem (hspace ▸ by simp)

theorem sourceKey_eq_iff_shifts (c c' : Connection) :
    c.sourceKey = c'.sourceKey ↔ c.engine = c'.engine ∧
      (c.redacted = c'.redacted ∧ c.space = c'.space ∨ c.Shifts c' ∨ c'.Shifts c) := by
  rw [sourceKey_eq_iff_texts, append_cons_eq_iff, shifts_iff, shifts_iff, String.toList_inj,
    String.toList_inj]

/-- Two connections have one key just if they are for one engine and either what is left of their
URLs and their namespaces are the same, or a part of the one text has moved to the other. What is
left of a URL is what it should be unless there is an at sign behind its authority. Plain
connections with one key lead to one source. -/
theorem sourceKey_eq_iff (c c' : Connection) :
    (c.sourceKey = c'.sourceKey ↔ c.engine = c'.engine ∧
      (c.redacted = c'.redacted ∧ c.space = c'.space ∨ c.Shifts c' ∨ c'.Shifts c)) ∧
    (c.redacted = c.bare ↔ '@' ∉ tail c.url.toList) ∧
    (c.IsPlain → c'.IsPlain → (c.sourceKey = c'.sourceKey ↔
      c.engine = c'.engine ∧ c.space = c'.space ∧ c.bare = c'.bare)) := by
  refine ⟨sourceKey_eq_iff_shifts c c', redacted_eq_bare_iff c, fun h h' => ?_⟩
  rw [sourceKey_eq_iff_shifts, (redacted_eq_bare_iff c).2 h.at_not_mem,
    (redacted_eq_bare_iff c').2 h'.at_not_mem, or_iff_left (h'.not_shifts c),
    or_iff_left (h.not_shifts c'), and_comm (a := c.bare = c'.bare)]

/-- Two users of one database, one of them with an at sign in the password. -/
theorem sourceKey_eq_iff_users :
    let admin : Connection := ⟨.postgres, "postgres://admin:a@b@db/shop", "public"⟩
    let guest : Connection := ⟨.postgres, "postgres://guest@db/shop", "public"⟩
    admin.IsPlain ∧ guest.IsPlain ∧ admin.sourceKey = guest.sourceKey := by
  intro admin guest
  have hadmin : admin.IsPlain := ⟨by decide +kernel, by decide +kernel⟩
  have hguest : guest.IsPlain := ⟨by decide +kernel, by decide +kernel⟩
  have hsource : admin.engine = guest.engine ∧ admin.space = guest.space ∧
      admin.bare = guest.bare := by decide +kernel
  exact ⟨hadmin, hguest, ((sourceKey_eq_iff admin guest).2.2 hadmin hguest).2 hsource⟩

/-- The shop database of a host, for an application with an at sign in its name. -/
def shopOn (host : String) : Connection where
  engine := .postgres
  url := "postgres://admin:secret@" ++ host ++ "/shop?application_name=a@b"

/-- Databases of two hosts have one key, and so have a namespace and one of another name in another
database. -/
theorem not_bare_eq_of_sourceKey_eq :
    ((shopOn "db1").refusal = none ∧ (shopOn "db2").refusal = none ∧
      (shopOn "db1").sourceKey = (shopOn "db2").sourceKey ∧
      (shopOn "db1").bare ≠ (shopOn "db2").bare) ∧
    ∃ c c' : Connection, c.refusal = none ∧ c'.refusal = none ∧ c.sourceKey = c'.sourceKey ∧
      c.space ≠ c'.space ∧ c.bare ≠ c'.bare := by
  refine ⟨by decide +kernel, ⟨.postgres, "postgres://db/a", "b/c"⟩,
    ⟨.postgres, "postgres://db/a/b", "c"⟩, by decide +kernel⟩

end Connection

end SqlWorkload
