import SqlWorkload.Proofs.Setup.SourceKeys
import SqlWorkload.Proofs.Text.Bytes
/-!
# Keys and credentials

What a user writes into a URL between `://` and an at sign has no part in the key of the source, not
even by separators in it. The key is also put together once more as bytes, with the URL cut at the
positions of the marks that are found; whatever the URL holds, each cut is between two characters,
so that there is a key, and it is the same one.

    scheme ++ "://" ++ user ++ "@" ++ rest, redacted, depends on scheme and rest  (exists_redact)
    a URL cut at positions is the URL redacted                    (redactBytes?_bytes)
    the key of a source shows no user                             (sourceKey_eq_of_user)
-/

namespace SqlWorkload.Connection

open Text

/-! ## Algorithm -/

/-- The bytes of the URL without credentials, by the positions of the first `://` and the last at
sign; none if a cut is not between two characters. -/
def redactBytes? (url : List UInt8) : Option (List UInt8) :=
  match findFirst? (bytes separator) url, findLast? '@'.toUInt8 url with
  | some schemeEnd, some lastAt =>
    if schemeEnd < lastAt then do
      let (front, _) ← cut? url (schemeEnd + 3)
      let (_, back) ← cut? url (lastAt + 1)
      return front ++ back
    else some url
  | _, _ => some url

/-- The bytes of the key. -/
def sourceKeyBytes? (c : Connection) : Option (List UInt8) := do
  let url ← redactBytes? (bytes c.url.toList)
  return bytes (c.engine.name.toList ++ [':']) ++ url ++ bytes ('/' :: c.space.toList)

/-- A connection as a user to what the rest of the URL names. -/
def asUser (engine : Engine) (space scheme rest user : String) : Connection :=
  ⟨engine, scheme ++ "://" ++ user ++ "@" ++ rest, space⟩

/-! ## Texts -/

theorem eq_of_splitScheme {url scheme rest : List Char}
    (h : splitScheme url = some (scheme, rest)) :
    url = scheme ++ ':' :: '/' :: '/' :: rest := by
  fun_induction splitScheme url generalizing scheme with
  | case1 rest =>
    cases h
    rfl
  | case2 c url _ ih =>
    obtain ⟨⟨front, back⟩, hsplit, hparts⟩ := Option.map_eq_some_iff.1 h
    cases hparts
    rw [ih hsplit]
    rfl
  | case3 => contradiction

theorem splitScheme_append {s front back : List Char} (h : splitScheme s = some (front, back))
    (t : List Char) : splitScheme (s ++ t) = some (front, back ++ t) := by
  fun_induction splitScheme s generalizing front with
  | case1 rest =>
    cases h
    rfl
  | case2 c s hne ih =>
    obtain ⟨⟨front, _⟩, hsplit, hparts⟩ := Option.map_eq_some_iff.1 h
    cases hparts
    rw [List.cons_append, splitScheme, ih hsplit]
    · rfl
    · rintro rest hc hs
      match s, hs with
      | [], _ => simp [splitScheme] at hsplit
      | [_], _ => simp [splitScheme] at hsplit
      | a :: b :: s, hs =>
        simp only [List.cons_append, List.cons.injEq] at hs
        exact hne s hc (by rw [hs.1, hs.2.1])
  | case3 => contradiction

/-- No part of `://` at the end of a text makes one with the `://` behind it. -/
theorem splitScheme_append_of_none {s : List Char} (h : splitScheme s = none) (t : List Char) :
    splitScheme (s ++ ':' :: '/' :: '/' :: t) = some (s, t) := by
  fun_induction splitScheme s with
  | case1 rest => contradiction
  | case2 c s hne ih =>
    rw [Option.map_eq_none_iff] at h
    rw [List.cons_append, splitScheme, ih h]
    · rfl
    · rintro rest hc hs
      match s, hs with
      | [], hs => simp at hs
      | [_], hs => simp at hs
      | a :: b :: s, hs =>
        simp only [List.cons_append, List.cons.injEq] at hs
        exact hne s hc (by rw [hs.1, hs.2.1])
  | case3 => rfl

/-- Nothing before an at sign counts. -/
theorem afterLastAt_append_cons (s t : List Char) :
    afterLastAt (s ++ '@' :: t) = afterLastAt t := by
  by_cases h : '@' ∈ t
  · obtain ⟨front, back, rfl, hback⟩ := exists_last_at h
    rw [afterLastAt_append hback, ← List.cons_append, ← List.append_assoc,
      afterLastAt_append hback]
  · rw [afterLastAt_append h, afterLastAt_of_not_mem h]

/-- What is before `://` is cut at the first one, whatever comes behind. -/
theorem exists_redact (scheme : List Char) : ∃ front, ∀ user rest,
    redact (scheme ++ ':' :: '/' :: '/' :: (user ++ '@' :: rest)) =
      front ++ ':' :: '/' :: '/' :: afterLastAt rest := by
  cases h : splitScheme scheme with
  | none =>
    refine ⟨scheme, fun user rest => ?_⟩
    rw [redact, splitScheme_append_of_none h]
    exact congrArg (scheme ++ ':' :: '/' :: '/' :: ·) (afterLastAt_append_cons user rest)
  | some parts =>
    obtain ⟨front, back⟩ := parts
    refine ⟨front, fun user rest => ?_⟩
    rw [redact, splitScheme_append h]
    dsimp only
    rw [← List.cons_append, ← List.cons_append, ← List.cons_append, ← List.append_assoc,
      afterLastAt_append_cons]

/-! ## Positions -/

theorem findFirst?_bytes (url : List Char) : findFirst? (bytes separator) (bytes url) =
    (splitScheme url).map fun parts => (bytes parts.1).length := by
  have hascii : ∀ a ∈ separator, a.toNat ≤ 127 := by simp [separator]
  fun_induction splitScheme url with
  | case1 rest =>
    exact findFirst?_of_prefix (by decide)
      ((bytes_prefix_iff hascii).2 (List.prefix_append separator rest))
  | case2 c url hne ih =>
    by_cases hc : c = ':'
    · subst hc
      have hnot : ¬ bytes separator <+: bytes (':' :: url) := by
        rw [bytes_prefix_iff hascii]
        rintro ⟨rest, hrest⟩
        exact hne rest rfl (List.cons.inj hrest).2.symm
      rw [bytes_cons_ascii (by decide)] at hnot ⊢
      rw [findFirst?_cons hnot, ih, Option.map_map, Option.map_map]
      refine Option.map_congr fun parts _ => ?_
      simp [bytes_cons_ascii]
    · have hmem : ':'.toUInt8 ∉ String.utf8EncodeChar c :=
        mt (mem_utf8EncodeChar_iff (by decide)).1 hc
      have hmark : bytes separator = ':'.toUInt8 :: bytes ['/', '/'] := rfl
      rw [hmark] at ih ⊢
      rw [bytes_cons c url, findFirst?_append_of_not_mem hmem, ih, Option.map_map, Option.map_map]
      refine Option.map_congr fun parts _ => ?_
      simp [bytes_cons, Nat.add_comm]
  | case3 => rfl

/-- With an at sign behind `://`, both cuts are made behind a mark. -/
theorem redactBytes?_of_at {url scheme user rest : List Char}
    (hurl : url = scheme ++ separator ++ user ++ ['@'] ++ rest)
    (hfirst : findFirst? (bytes separator) (bytes url) = some (bytes scheme).length)
    (hrest : '@' ∉ rest) :
    redactBytes? (bytes url) = some (bytes (scheme ++ separator ++ rest)) := by
  have hlast : findLast? '@'.toUInt8 (bytes url) =
      some (bytes (scheme ++ separator ++ user)).length := by
    rw [hurl, List.append_assoc _ ['@'], bytes_append, List.singleton_append,
      bytes_cons_ascii (by decide)]
    exact findLast?_append_cons (mt (mem_bytes_iff (by decide)).1 hrest)
  have hfront : cut? (bytes url) ((bytes scheme).length + 3) =
      some (bytes (scheme ++ separator), bytes (user ++ ['@'] ++ rest)) :=
    cut?_bytes (by simp [hurl]) (by rw [bytes_append, List.length_append]; rfl)
  have hback : cut? (bytes url) ((bytes (scheme ++ separator ++ user)).length + 1) =
      some (bytes (scheme ++ separator ++ user ++ ['@']), bytes rest) :=
    cut?_bytes hurl (by rw [bytes_append _ ['@'], List.length_append]; rfl)
  have hlt : (bytes scheme).length < (bytes (scheme ++ separator ++ user)).length := by
    have hthree : (bytes separator).length = 3 := rfl
    simp only [bytes_append, List.length_append]
    omega
  unfold redactBytes?
  rw [hfirst, hlast]
  dsimp only
  rw [if_pos hlt, hfront, hback, bytes_append (scheme ++ separator) rest]
  rfl

/-- The last at sign, if there is one, may also stand before `://`. -/
theorem redactBytes?_of_not_at {url scheme rest : List Char}
    (hurl : url = scheme ++ separator ++ rest)
    (hfirst : findFirst? (bytes separator) (bytes url) = some (bytes scheme).length)
    (hrest : '@' ∉ rest) : redactBytes? (bytes url) = some (bytes url) := by
  have hlast : findLast? '@'.toUInt8 (bytes url) = findLast? '@'.toUInt8 (bytes scheme) := by
    have hnot : '@' ∉ separator ++ rest :=
      List.mem_append.not.2 (not_or.2 ⟨by decide, hrest⟩)
    rw [hurl, List.append_assoc, bytes_append]
    exact findLast?_append_of_not_mem (mt (mem_bytes_iff (by decide)).1 hnot)
  unfold redactBytes?
  rw [hfirst, hlast]
  cases hat : findLast? '@'.toUInt8 (bytes scheme) with
  | none => rfl
  | some n => exact if_neg (Nat.lt_asymm (findLast?_lt hat))

theorem redactBytes?_bytes (url : List Char) :
    redactBytes? (bytes url) = some (bytes (redact url)) := by
  have hfirst := findFirst?_bytes url
  unfold redact
  cases hsplit : splitScheme url with
  | none =>
    rw [redactBytes?, hfirst, hsplit]
    rfl
  | some parts =>
    obtain ⟨scheme, rest⟩ := parts
    obtain rfl := eq_of_splitScheme hsplit
    rw [hsplit] at hfirst
    dsimp only
    by_cases hat : '@' ∈ rest
    · obtain ⟨user, rest, rfl, hrest⟩ := exists_last_at hat
      rw [@redactBytes?_of_at _ scheme user rest (by simp [separator]) hfirst hrest,
        afterLastAt_append hrest]
      simp [separator]
    · rw [redactBytes?_of_not_at (by simp [separator]) hfirst hat, afterLastAt_of_not_mem hat]

/-! ## Keys -/

theorem sourceKeyBytes?_eq (c : Connection) :
    c.sourceKeyBytes? = some (bytes c.sourceKey.toList) := by
  have hkey : c.sourceKey.toList =
      c.engine.name.toList ++ [':'] ++ redact c.url.toList ++ '/' :: c.space.toList := by
    simp [sourceKey]
  rw [hkey, bytes_append, bytes_append _ (redact c.url.toList), sourceKeyBytes?,
    redactBytes?_bytes]
  rfl

theorem redact_asUser (engine : Engine) (space scheme rest user user' : String) :
    redact (asUser engine space scheme rest user).url.toList =
      redact (asUser engine space scheme rest user').url.toList := by
  have hurl (user : String) : (asUser engine space scheme rest user).url.toList =
      scheme.toList ++ ':' :: '/' :: '/' :: (user.toList ++ '@' :: rest.toList) := by
    simp [asUser]
  obtain ⟨front, hfront⟩ := exists_redact scheme.toList
  rw [hurl, hurl, hfront, hfront]

/-- No two users are told apart by the key of the source, whatever separators and characters they
are written with, and no cut that is made for a key goes through a character. -/
theorem sourceKey_eq_of_user (engine : Engine) (space scheme rest user user' : String) :
    (asUser engine space scheme rest user).sourceKey =
        (asUser engine space scheme rest user').sourceKey ∧
      ∀ c : Connection, c.sourceKeyBytes? = some (bytes c.sourceKey.toList) := by
  refine ⟨?_, sourceKeyBytes?_eq⟩
  rw [sourceKey, sourceKey, redact_asUser engine space scheme rest user user']
  rfl

end SqlWorkload.Connection
