/-!
# Punycode

Texts of any script in ASCII letters, digits and hyphens. The ASCII characters of a text come first,
with a hyphen after them. Numbers then tell where the others go in: each counts the places passed
over from the one before, through the text and then again for the next higher character. A number
ends with a digit below a threshold, which follows the numbers before it.

    reading a number leaves less to read                           (number?_length)
-/

namespace SqlWorkload.Text.Punycode

/-! ## Algorithm -/

def base : Nat := 36

/-- The value of a digit: small letters are the first ones, and decimal digits come after them. -/
def digit? (c : Char) : Option Nat :=
  if c.isLower then some (c.toNat - 'a'.toNat)
  else if c.isDigit then some (c.toNat - '0'.toNat + 26)
  else none

/-- The threshold at a place, which is counted in steps of `base`. -/
def threshold (bias place : Nat) : Nat := min (max (place - bias) 1) 26

/-- The number at the front, in units of `weight`, and the text after it. Weights have 32 bits. -/
def number? (bias place weight : Nat) : List Char → Option (Nat × List Char)
  | [] => none
  | c :: rest =>
    match digit? c with
    | none => none
    | some digit =>
      let limit := threshold bias place
      if digit < limit then some (digit * weight, rest)
      else if UInt32.size ≤ weight * (base - limit) then none
      else
        (number? bias (place + base) (weight * (base - limit)) rest).map fun (n, rest) =>
          (digit * weight + n, rest)

/-- The bias after a number: it grows by `base` as often as the number can be divided. -/
def settle (n : Nat) : Nat :=
  if h : 455 < n then
    have : n / 35 < n := Nat.div_lt_self (by omega) (by omega)
    settle (n / 35) + base
  else base * n / (n + 38)
termination_by n

/-- The bias after a number that was read for a text of `size` characters; the first number tends to
be large. -/
def adapt (n size : Nat) (isFirst : Bool) : Nat :=
  let n := if isFirst then n / 700 else n / 2
  settle (n + n / size)

/-! ## Lemmas -/

theorem number?_length {bias place weight n : Nat} {s rest : List Char}
    (h : number? bias place weight s = some (n, rest)) : rest.length < s.length := by
  induction s generalizing place weight n with
  | nil => simp [number?] at h
  | cons c s ih =>
    rw [number?] at h
    split at h
    · simp at h
    · dsimp only at h
      split at h
      · cases h; simp
      · split at h
        · simp at h
        · obtain ⟨⟨m, r⟩, hm, e⟩ := Option.map_eq_some_iff.1 h
          cases e
          exact Nat.lt_succ_of_lt (ih hm)

/-! ## Texts -/

/-- The text after the insertions that `s` tells of. The next character may be `code` or higher, and
go in at `place` or later. -/
def insertAll (bias code place : Nat) (text s : List Char) : Option (List Char) :=
  match h : number? bias base 1 s with
  | none => if s = [] then some text else none
  | some (n, rest) =>
    have : rest.length < s.length := number?_length h
    let size := text.length + 1
    let code := code + (place + n) / size
    let place' := (place + n) % size
    if code.isValidChar then
      insertAll (adapt n size (place == 0)) code (place' + 1)
        (text.insertIdx place' (Char.ofNat code)) rest
    else none
termination_by s.length

/-- The text that `s` stands for. -/
def decode (s : List Char) : Option (List Char) :=
  let digits := (s.reverse.takeWhile (· != '-')).reverse
  let ascii := s.take (s.length - digits.length - 1)
  if ascii.all fun c => c.toNat < 0x80 then
    insertAll 72 0x80 0 ascii (if ascii = [] then s else digits)
  else none

end SqlWorkload.Text.Punycode
