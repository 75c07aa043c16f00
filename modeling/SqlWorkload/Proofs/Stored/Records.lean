import Mathlib.Data.List.Basic
import SqlWorkload.Json.Record
/-!
# Values that come back from documents

What is written of a number, of an optional value or of a record of fields is read as it was. An
integer comes back through a reader of 64 bits as far as that reader goes.

    a natural number is read as itself below the bound of the reader
                                                                  (nat?_ofNat, int64?_ofNat)
    an object with each field once is a record of just these fields
                                                                  (Record.of?_record)
-/

namespace SqlWorkload.Json

/-! ## Numbers -/

theorem Number.toInt?_ofInt (n : Nat) :
    (Number.ofInt n).toInt? = if n < UInt64.size then some (n : Int) else none := by
  have hsign : decide ((n : Int) < 0) = false := by simp
  simp [Number.ofInt, Number.toInt?, Number.isInteger, hsign, Text.digitsValue]

theorem int?_ofNat (least most : Int) (n : Nat) : (ofNat n).int? least most =
    if n < UInt64.size ∧ least ≤ n ∧ (n : Int) ≤ most then some (n : Int) else none := by
  show (Number.ofInt n).toInt?.bind _ = _
  rw [Number.toInt?_ofInt]
  by_cases hn : n < UInt64.size
  · simp [hn]
  · simp [hn]

theorem nat?_ofNat {n size : Nat} (hn : n < size) (hsize : size ≤ UInt64.size) :
    (ofNat n).nat? size = some n := by
  have hbound : n < UInt64.size ∧ (0 : Int) ≤ n ∧ (n : Int) ≤ size - 1 := by omega
  rw [nat?, int?_ofNat, if_pos hbound]
  rfl

/-- A reader of integers with a sign has only half of the numbers of a word. -/
theorem int64?_ofNat (n : Nat) :
    (ofNat n).int64? = if n < UInt64.size / 2 then some (n : Int) else none := by
  have hleast : Int64.minValue.toInt = -9223372036854775808 := rfl
  have hmost : Int64.maxValue.toInt = 9223372036854775807 := rfl
  have hsize : UInt64.size = 18446744073709551616 := rfl
  rw [int64?, int?_ofNat, hleast, hmost, hsize]
  refine if_congr ?_ rfl rfl
  omega

/-! ## Optional values -/

theorem optional?_ofOption {α : Type} {f : Json → Option α} {g : α → Json} (a : Option α)
    (h : ∀ x, a = some x → g x ≠ null ∧ f (g x) = some x) :
    optional? f (some (ofOption g a)) = some a := by
  cases a with
  | none => rfl
  | some x =>
    obtain ⟨hnull, hf⟩ := h x rfl
    show optional? f (some (g x)) = some (some x)
    unfold optional?
    split
    · next heq => contradiction
    · next heq => exact absurd (Option.some.inj heq) hnull
    · next j _ heq =>
      rw [← Option.some.inj heq, hf]
      rfl

theorem optional?_ofString (s : Option String) :
    optional? string? (some (ofOption ofString s)) = some s :=
  optional?_ofOption s fun _ _ => ⟨by simp [ofString], rfl⟩

/-! ## Records -/

namespace Record

theorem ofMembers_record {names seen : List String} {fields : List (String × Json)}
    (hknown : ∀ f ∈ fields, f.1 ∈ names) (hnew : ∀ f ∈ fields, f.1 ∉ seen)
    (honce : (fields.map (·.1)).Nodup) :
    ofMembers names seen (fields.map fun (name, value) => (some name, value)) =
      ⟨fields, true⟩ := by
  induction fields generalizing seen with
  | nil => rfl
  | cons f rest ih =>
    obtain ⟨name, j⟩ := f
    obtain ⟨hname, hknown⟩ := List.forall_mem_cons.1 hknown
    obtain ⟨hfirst, hnew⟩ := List.forall_mem_cons.1 hnew
    obtain ⟨hnot, honce⟩ := List.nodup_cons.1 honce
    have hnext : ∀ f ∈ rest, f.1 ∉ name :: seen := by
      intro f hf hseen
      rcases List.mem_cons.1 hseen with heq | hseen
      · exact hnot (List.mem_map.2 ⟨f, hf, heq⟩)
      · exact hnew f hf hseen
    rw [List.map_cons, ofMembers, if_pos hname, if_neg hfirst, ih hknown hnext honce]

theorem of?_record {names : List String} (honce : names.Nodup) (spare : Nat)
    {fields : List (String × Json)} (hnames : fields.map (·.1) = names) :
    of? names spare (record fields) = some ⟨fields, true⟩ := by
  subst hnames
  exact congrArg some (ofMembers_record (fun _ hf => List.mem_map_of_mem hf)
    (fun _ _ => List.not_mem_nil) honce)

theorem sound?_record {names : List String} (honce : names.Nodup) {fields : List (String × Json)}
    (hnames : fields.map (·.1) = names) : sound? names (record fields) = some ⟨fields, true⟩ := by
  rw [sound?, of?_record honce 0 hnames]
  rfl

end Record

end SqlWorkload.Json
