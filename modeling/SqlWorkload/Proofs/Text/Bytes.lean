import Mathlib.Data.List.Infix
/-!
# Positions among bytes

A text as its bytes in UTF-8, searched and cut by positions among them. A text may be cut where a
character begins or the text ends; a cut anywhere else has no result. Marks of ASCII characters
stand among the bytes where they stand in the text, since no other character has an ASCII byte.

    mark <+: s, for a mark of ASCII characters ↔ its bytes begin those of s
                                                                  (bytes_prefix_iff)
    a text is cut in two at the number of bytes of the first part (cut?_bytes)
    a mark is first found where it first begins the rest          (findFirst?_of_prefix,
                                                  findFirst?_cons, findFirst?_append_of_not_mem)
    a byte is last found where none follows                       (findLast?_append_cons)
-/

namespace SqlWorkload.Text

/-! ## Algorithm -/

def bytes (s : List Char) : List UInt8 := s.flatMap String.utf8EncodeChar

/-- The bytes before a position and those from there on, if no character goes across it. -/
def cut? (b : List UInt8) (n : Nat) : Option (List UInt8 × List UInt8) :=
  if n ≤ b.length ∧ (b.drop n).head?.all (·.IsUTF8FirstByte) then
    some (b.take n, b.drop n)
  else none

/-- The first position from which the bytes go on with the mark. -/
def findFirst? (mark : List UInt8) : List UInt8 → Option Nat
  | [] => none
  | b :: rest => if mark.isPrefixOf (b :: rest) then some 0 else (findFirst? mark rest).map (· + 1)

/-- The last position of a byte. -/
def findLast? (mark : UInt8) : List UInt8 → Option Nat
  | [] => none
  | b :: rest =>
    match findLast? mark rest with
    | some n => some (n + 1)
    | none => if b = mark then some 0 else none

/-! ## Characters -/

@[simp] theorem bytes_append (s t : List Char) : bytes (s ++ t) = bytes s ++ bytes t :=
  List.flatMap_append

@[simp] theorem bytes_nil : bytes [] = [] := rfl

theorem bytes_cons (c : Char) (s : List Char) :
    bytes (c :: s) = String.utf8EncodeChar c ++ bytes s := rfl

theorem utf8EncodeChar_ascii {c : Char} (hc : c.toNat ≤ 127) :
    String.utf8EncodeChar c = [c.toUInt8] :=
  String.utf8EncodeChar_eq_singleton (Char.utf8Size_eq_one_iff.2 (UInt32.le_iff_toNat_le.2 hc))

theorem bytes_cons_ascii {c : Char} (hc : c.toNat ≤ 127) (s : List Char) :
    bytes (c :: s) = c.toUInt8 :: bytes s := by
  rw [bytes_cons, utf8EncodeChar_ascii hc]
  rfl

/-- A character beyond ASCII has no byte that could be an ASCII character. -/
theorem le_of_mem_utf8EncodeChar {c : Char} (hc : ¬ c.toNat ≤ 127) {b : UInt8}
    (hb : b ∈ String.utf8EncodeChar c) : 128 ≤ b.toNat := by
  revert b
  unfold String.utf8EncodeChar
  rw [if_neg (by exact hc)]
  split
  · simp
    omega
  · split
    · simp
      omega
    · simp
      omega

theorem mem_utf8EncodeChar_iff {a c : Char} (ha : a.toNat ≤ 127) :
    a.toUInt8 ∈ String.utf8EncodeChar c ↔ c = a := by
  have hbyte {c : Char} (hc : c.toNat ≤ 127) : c.toUInt8.toNat = c.toNat := by
    show c.toNat % 256 = c.toNat
    omega
  constructor
  · intro h
    by_cases hc : c.toNat ≤ 127
    · rw [utf8EncodeChar_ascii hc, List.mem_singleton] at h
      have hnat := congrArg UInt8.toNat h
      rw [hbyte ha, hbyte hc] at hnat
      exact Char.ext (UInt32.toNat_inj.1 hnat.symm)
    · have hlarge := le_of_mem_utf8EncodeChar hc h
      rw [hbyte ha] at hlarge
      omega
  · rintro rfl
    rw [utf8EncodeChar_ascii ha]
    exact List.mem_singleton_self _

theorem mem_bytes_iff {a : Char} (ha : a.toNat ≤ 127) {s : List Char} :
    a.toUInt8 ∈ bytes s ↔ a ∈ s := by
  simp only [bytes, List.mem_flatMap, mem_utf8EncodeChar_iff ha, exists_eq_right]

/-- A mark of ASCII characters begins a text just if its bytes begin those of the text. -/
theorem bytes_prefix_iff {mark s : List Char} (hmark : ∀ a ∈ mark, a.toNat ≤ 127) :
    bytes mark <+: bytes s ↔ mark <+: s := by
  induction mark generalizing s with
  | nil => simp [bytes]
  | cons a mark ih =>
    have ha := hmark a List.mem_cons_self
    have hrest : ∀ b ∈ mark, b.toNat ≤ 127 := fun b hb => hmark b (List.mem_cons_of_mem _ hb)
    rw [bytes_cons_ascii ha]
    cases s with
    | nil => simp [bytes]
    | cons c s =>
      rw [List.cons_prefix_cons]
      by_cases hc : a = c
      · subst hc
        rw [bytes_cons_ascii ha, List.cons_prefix_cons, ih hrest]
        exact and_congr_left fun _ => iff_of_true rfl rfl
      · obtain ⟨b, tail, hb⟩ := List.exists_cons_of_ne_nil (String.utf8EncodeChar_ne_nil (c := c))
        rw [bytes_cons, hb, List.cons_append, List.cons_prefix_cons]
        refine iff_of_false (fun h => hc ?_) fun h => hc h.1
        exact ((mem_utf8EncodeChar_iff ha).1 (by rw [hb, h.1]; exact List.mem_cons_self)).symm

/-! ## Cuts -/

theorem isUTF8FirstByte_head_bytes (s : List Char) :
    (bytes s).head?.all (·.IsUTF8FirstByte) = true := by
  cases s with
  | nil => rfl
  | cons c s =>
    have hfirst := UInt8.isUTF8FirstByte_getElem_zero_utf8EncodeChar (c := c)
    obtain ⟨first, tail, hc⟩ := List.exists_cons_of_ne_nil (String.utf8EncodeChar_ne_nil (c := c))
    simp only [hc, List.getElem_cons_zero] at hfirst
    simpa [bytes_cons, hc] using hfirst

/-- A text may be cut behind each of its characters. -/
theorem cut?_bytes {s front back : List Char} {n : Nat} (hs : s = front ++ back)
    (hn : n = (bytes front).length) : cut? (bytes s) n = some (bytes front, bytes back) := by
  subst hs hn
  rw [cut?, bytes_append, List.take_left, List.drop_left, if_pos]
  exact ⟨by simp, isUTF8FirstByte_head_bytes back⟩

/-! ## Searches -/

theorem findFirst?_of_prefix {mark b : List UInt8} (hne : mark ≠ []) (h : mark <+: b) :
    findFirst? mark b = some 0 := by
  obtain ⟨rest, rfl⟩ := h
  obtain ⟨x, mark, rfl⟩ := List.exists_cons_of_ne_nil hne
  exact if_pos (List.isPrefixOf_iff_prefix.2 (List.prefix_append _ rest))

theorem findFirst?_cons {mark : List UInt8} {x : UInt8} {b : List UInt8} (h : ¬ mark <+: x :: b) :
    findFirst? mark (x :: b) = (findFirst? mark b).map (· + 1) :=
  if_neg (mt List.isPrefixOf_iff_prefix.1 h)

/-- A mark is not found to begin where its first byte is not. -/
theorem findFirst?_append_of_not_mem {x : UInt8} {mark front b : List UInt8} (h : x ∉ front) :
    findFirst? (x :: mark) (front ++ b) = (findFirst? (x :: mark) b).map (· + front.length) := by
  induction front with
  | nil => simp
  | cons y front ih =>
    rw [List.mem_cons, not_or] at h
    rw [List.cons_append, findFirst?_cons, ih h.2]
    · simp [Option.map_map, Function.comp_def, Nat.add_assoc]
    · rw [List.cons_prefix_cons]
      exact fun hy => h.1 hy.1

theorem findLast?_eq_none {x : UInt8} {b : List UInt8} (h : x ∉ b) : findLast? x b = none := by
  induction b with
  | nil => rfl
  | cons y b ih =>
    rw [List.mem_cons, not_or] at h
    rw [findLast?, ih h.2, if_neg (Ne.symm h.1)]

theorem findLast?_append {x : UInt8} {front b : List UInt8} {n : Nat}
    (h : findLast? x b = some n) : findLast? x (front ++ b) = some (front.length + n) := by
  induction front with
  | nil => simpa
  | cons y front ih =>
    rw [List.cons_append, findLast?, ih, List.length_cons]
    exact congrArg some (by omega)

theorem findLast?_append_cons {x : UInt8} {front back : List UInt8} (h : x ∉ back) :
    findLast? x (front ++ x :: back) = some front.length :=
  findLast?_append (n := 0) (by rw [findLast?, findLast?_eq_none h]; exact if_pos rfl)

/-- Behind the last position of a byte, nothing else is found. -/
theorem findLast?_append_of_not_mem {x : UInt8} {front back : List UInt8} (h : x ∉ back) :
    findLast? x (front ++ back) = findLast? x front := by
  induction front with
  | nil => exact findLast?_eq_none h
  | cons y front ih => rw [List.cons_append, findLast?, findLast?, ih]

theorem findLast?_lt {x : UInt8} {b : List UInt8} {n : Nat} (h : findLast? x b = some n) :
    n < b.length := by
  induction b generalizing n with
  | nil => simp [findLast?] at h
  | cons y b ih =>
    rw [findLast?] at h
    split at h
    · next m hm =>
      cases h
      exact Nat.succ_lt_succ (ih hm)
    · split at h
      · cases h
        exact Nat.succ_pos _
      · contradiction

end SqlWorkload.Text
