/-!
# Digits

Natural numbers written with a least number of decimal digits, and read from the front of a text.

    digitsValue (zeroPad width n) = n                             (digitsValue_zeroPad)
-/

namespace SqlWorkload.Text

/-! ## Algorithm -/

/-- The decimal digits of `n`, with zeros in front up to `width` of them. -/
def zeroPad (width n : Nat) : List Char :=
  let digits := Nat.toDigits 10 n
  List.replicate (width - digits.length) '0' ++ digits

def intText (n : Int) : List Char :=
  if n < 0 then '-' :: Nat.toDigits 10 n.natAbs else Nat.toDigits 10 n.toNat

/-- The longest run of at most `most` digits that `s` starts with, and the rest. -/
def spanDigits : (most : Nat) → List Char → List Char × List Char
  | most + 1, c :: rest =>
    if c.isDigit then
      let (digits, rest) := spanDigits most rest
      (c :: digits, rest)
    else ([], c :: rest)
  | _, s => ([], s)

def digitsValue (digits : List Char) : Nat := Nat.ofDigitChars 10 digits 0

/-- A number of one to `most` digits at the front of a text. -/
def readNumber (most : Nat) (s : List Char) : Option (Nat × List Char) :=
  match spanDigits most s with
  | ([], _) => none
  | (digits, rest) => some (digitsValue digits, rest)

/-- The value of a hexadecimal digit, in either case. -/
def hexDigit? (c : Char) : Option Nat :=
  if c.isDigit then some (c.toNat - 0x30)
  else if 'a' ≤ c && c ≤ 'f' then some (c.toNat - 0x57)
  else if 'A' ≤ c && c ≤ 'F' then some (c.toNat - 0x37)
  else none

/-! ## Lemmas -/

theorem length_zeroPad (width n : Nat) :
    (zeroPad width n).length = max width (Nat.toDigits 10 n).length := by
  simp [zeroPad]; omega

theorem isDigit_of_mem_zeroPad {width n : Nat} {c : Char} (h : c ∈ zeroPad width n) :
    c.isDigit = true := by
  simp only [zeroPad, List.mem_append, List.mem_replicate] at h
  rcases h with ⟨_, rfl⟩ | h
  · rfl
  · exact Nat.isDigit_of_mem_toDigits (by decide) (by decide) h

/-- Zeros in front do not count. -/
theorem ofDigitChars_replicate_zero (k : Nat) (s : List Char) :
    Nat.ofDigitChars 10 (List.replicate k '0' ++ s) 0 = Nat.ofDigitChars 10 s 0 := by
  induction k with
  | zero => rfl
  | succ k ih => simpa [List.replicate_succ, Nat.ofDigitChars] using ih

theorem digitsValue_zeroPad (width n : Nat) : digitsValue (zeroPad width n) = n := by
  rw [digitsValue, zeroPad, ofDigitChars_replicate_zero,
    Nat.ofDigitChars_toDigits (by decide) (by decide)]

end SqlWorkload.Text
