import SqlWorkload.Request.Uuid
/-!
# Identifiers that come back from their texts

The digits of an identifier are its value in steps of four bits, the highest first. Cut into groups
and put together again they are the same digits, and read from the front they add up to the value.

    groups are put together as they were cut                      (ungroup?_group)
    the digits read so far are the upper bits of the value        (foldlM_digits)
    an identifier is read as itself from its text                 (ofText?_text)
-/

namespace SqlWorkload.Uuid

/-! ## Groups -/

/-- One case for each way to cut: nothing, the last group, and a group with more behind it. -/
theorem ungroup?_group {sizes : List Nat} {s : List Char} (h : s.length = sizes.foldr (· + ·) 0) :
    ungroup? sizes (group sizes s) = some s := by
  induction sizes generalizing s with
  | nil =>
    have hs : s = [] := List.length_eq_zero_iff.1 h
    subst hs
    rfl
  | cons n rest ih =>
    cases rest with
    | nil =>
      have hn : s.length = n := by simpa using h
      have htake : s.take n = s := List.take_of_length_le (Nat.le_of_eq hn)
      rw [group, htake, ungroup?, if_pos hn]
    | cons m rest =>
      rw [List.foldr_cons] at h
      have hn : (s.take n).length = n := by
        rw [List.length_take]
        omega
      have hdrop : (s.drop n).length = (m :: rest).foldr (· + ·) 0 := by
        rw [List.length_drop]
        omega
      have hafter (t : List Char) : (s.take n ++ t).drop n = t := List.drop_left' hn
      have hbefore (t : List Char) : (s.take n ++ t).take n = s.take n := List.take_left' hn
      have hle (t : List Char) : n ≤ (s.take n ++ t).length := by
        rw [List.length_append]
        omega
      rw [group, ungroup?, hafter]
      · show (if n ≤ _ then (ungroup? (m :: rest) (group (m :: rest) (s.drop n))).map _ else _) = _
        rw [if_pos (hle _), ih hdrop, hbefore, Option.map_some, List.take_append_drop]
      · simp
      · simp

theorem length_group {sizes : List Nat} {s : List Char} (hsizes : sizes ≠ [])
    (h : s.length = sizes.foldr (· + ·) 0) :
    (group sizes s).length + 1 = s.length + sizes.length := by
  induction sizes generalizing s with
  | nil => contradiction
  | cons n rest ih =>
    rw [List.foldr_cons] at h
    cases rest with
    | nil =>
      rw [group, List.length_take, List.length_singleton]
      simp at h
      omega
    | cons m rest =>
      have hdrop : (s.drop n).length = (m :: rest).foldr (· + ·) 0 := by
        rw [List.length_drop]
        omega
      have hlength := ih (by simp) hdrop
      rw [List.length_drop] at hlength
      rw [group, List.length_append, List.length_cons, List.length_take, List.length_cons]
      · omega
      · simp

/-! ## Digits -/

theorem hexDigit?_digitChar {n : Nat} (h : n < 16) :
    Text.hexDigit? (Nat.digitChar n) = some n := by
  revert n
  decide

/-- The induction is on the digits that have been read; the next one is worth four bits more. -/
theorem foldlM_digits (value : Nat) {k n : Nat} (h : n ≤ k) (hvalue : value >>> (4 * k) = 0) :
    ((List.range n).map fun i => Nat.digitChar ((value >>> (4 * (k - 1 - i))) % 16)).foldlM
      (fun n c => (Text.hexDigit? c).map (n * 16 + ·)) 0 = some (value >>> (4 * (k - n))) := by
  induction n with
  | zero => rw [Nat.sub_zero, hvalue]; rfl
  | succ n ih =>
    have hshift : 4 * (k - n) = 4 * (k - (n + 1)) + 4 := by omega
    have hplace : k - 1 - n = k - (n + 1) := by omega
    rw [List.range_succ, List.map_append, List.foldlM_append, ih (by omega), hshift,
      Nat.shiftRight_add]
    simp only [List.map_singleton, List.foldlM_cons, List.foldlM_nil, hplace,
      hexDigit?_digitChar (Nat.mod_lt _ (show 0 < 16 by decide)), Option.map_some,
      Option.bind_eq_bind, Option.bind_some, Option.pure_def]
    generalize value >>> (4 * (k - (n + 1))) = w
    have hw : w >>> 4 * 16 + w % 16 = w := by omega
    rw [hw]

theorem ofDigits?_digits (u : Uuid) : ofDigits? u.digits = some u := by
  have hvalue : u.value.toNat >>> (4 * 32) = 0 := by
    have := u.value.isLt
    omega
  have hread := foldlM_digits u.value.toNat (Nat.le_refl 32) hvalue
  have hlength : ¬u.digits.length ≠ 32 := by simp [digits]
  rw [ofDigits?, if_neg hlength]
  rw [digits, hread]
  show some (Uuid.mk (.ofNat 128 u.value.toNat)) = some u
  rw [BitVec.ofNat_toNat, BitVec.setWidth_eq]

theorem ofText?_text (u : Uuid) : ofText? u.text = some u := by
  have hdigits : u.digits.length = groups.foldr (· + ·) 0 := by simp [digits, groups]
  have hlength : (group groups u.digits).length = 36 := by
    have := length_group (by simp [groups]) hdigits
    simp [digits, groups] at this ⊢
    omega
  rw [ofText?, text, String.toList_ofList, if_neg (by simp [hlength]), if_pos hlength,
    ungroup?_group hdigits]
  exact ofDigits?_digits u

end SqlWorkload.Uuid
