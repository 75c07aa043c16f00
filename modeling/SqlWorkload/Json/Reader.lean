import SqlWorkload.Json.Value
/-!
# Reading JSON

JSON text to trees, by the letter of the format: blanks are the space, tab, line feed and carriage
return, control characters may not stand in strings, numbers have no leading zeros, and nothing is
added to the grammar. A step that meets a fault answers with no rest.
-/

namespace SqlWorkload.Json

/-! ## Strings -/

/-- The number that four hexadecimal digits write. -/
def hexValue? (a b c d : Char) : Option Nat := do
  let high := (← Text.hexDigit? a) * 16 + (← Text.hexDigit? b)
  let low := (← Text.hexDigit? c) * 16 + (← Text.hexDigit? d)
  return high * 256 + low

/-- The character of a letter after a backslash. -/
def escaped? : Char → Option Char
  | '"' => some '"'
  | '\\' => some '\\'
  | '/' => some '/'
  | 'b' => some '\x08'
  | 'f' => some '\x0c'
  | 'n' => some '\n'
  | 'r' => some '\r'
  | 't' => some '\t'
  | _ => none

def isHighSurrogate (n : Nat) : Bool := 0xD800 ≤ n && n < 0xDC00

def isLowSurrogate (n : Nat) : Bool := 0xDC00 ≤ n && n < 0xE000

/-- The code that four hexadecimal digits write at the front of a text. -/
def readCode : List Char → Option (Nat × List Char)
  | a :: b :: c :: d :: rest => (hexValue? a b c d).map fun n => (n, rest)
  | _ => none

/-- The second half of a surrogate pair at the front of a text. -/
def readLowSurrogate : List Char → Option (Nat × List Char)
  | '\\' :: 'u' :: rest => (readCode rest).filter fun x => isLowSurrogate x.1
  | _ => none

/-- The character after a backslash; half a surrogate pair is no character. -/
def readEscape : List Char → Option (Option Char × List Char)
  | 'u' :: rest =>
    match readCode rest with
    | none => none
    | some (n, rest) =>
      if isHighSurrogate n then
        match readLowSurrogate rest with
        | some (m, rest) =>
          some (some (Char.ofNat (0x10000 + (n - 0xD800) * 0x400 + (m - 0xDC00))), rest)
        | none => some (none, rest)
      else some (if isLowSurrogate n then none else some (Char.ofNat n), rest)
  | c :: rest => (escaped? c).map fun e => (some e, rest)
  | [] => none

theorem length_readCode {s rest : List Char} {n : Nat} (h : readCode s = some (n, rest)) :
    rest.length ≤ s.length := by
  unfold readCode at h
  split at h
  · obtain ⟨_, _, h⟩ := Option.map_eq_some_iff.1 h
    cases h; simp; omega
  · contradiction

theorem length_readLowSurrogate {s rest : List Char} {n : Nat}
    (h : readLowSurrogate s = some (n, rest)) : rest.length ≤ s.length := by
  unfold readLowSurrogate at h
  split at h
  · have := length_readCode (Option.filter_eq_some_iff.1 h).1
    simp; omega
  · contradiction

theorem length_readEscape {s rest : List Char} {c : Option Char}
    (h : readEscape s = some (c, rest)) : rest.length ≤ s.length := by
  unfold readEscape at h
  split at h
  · split at h
    · contradiction
    · next h₁ =>
      have h₁ := length_readCode h₁
      split at h
      · split at h
        · next h₂ =>
          have h₂ := length_readLowSurrogate h₂
          cases h; simp; omega
        · cases h; simp; omega
      · cases h; simp; omega
  · obtain ⟨_, _, h⟩ := Option.map_eq_some_iff.1 h
    cases h; simp
  · contradiction

/-- The rest of a string after its opening quote. `seen` holds the characters so far, last one
first, unless half a surrogate pair was among them. -/
def readString (seen : Option (List Char)) (s : List Char) : Option (Option String × List Char) :=
  match s with
  | [] => none
  | c :: rest =>
    if c = '"' then some (seen.map fun cs => String.ofList cs.reverse, rest)
    else if c = '\\' then
      match h : readEscape rest with
      | none => none
      | some (e, rest') =>
        have := length_readEscape h
        readString (seen.bind fun cs => e.map (· :: cs)) rest'
    else if c.toNat < 0x20 then none
    else readString (seen.map (c :: ·)) rest
termination_by s.length
decreasing_by all_goals (simp only [List.length_cons]; omega)

/-! ## Numbers -/

/-- The digits after a point, if there is one; at least one has to follow it. -/
def readFraction : List Char → Option (Option (List Char) × List Char)
  | '.' :: rest =>
    match rest.takeWhile Char.isDigit with
    | [] => none
    | digits => some (some digits, rest.dropWhile Char.isDigit)
  | s => some (none, s)

def readExponentDigits (sign : Int) (s : List Char) : Option (Option Int × List Char) :=
  match s.takeWhile Char.isDigit with
  | [] => none
  | digits => some (some (sign * Text.digitsValue digits), s.dropWhile Char.isDigit)

def readExponent : List Char → Option (Option Int × List Char)
  | 'e' :: rest | 'E' :: rest =>
    match rest with
    | '-' :: rest => readExponentDigits (-1) rest
    | '+' :: rest => readExponentDigits 1 rest
    | rest => readExponentDigits 1 rest
  | s => some (none, s)

def readUnsigned (negative : Bool) (s : List Char) : Option (Number × List Char) := do
  let whole := s.takeWhile Char.isDigit
  guard (whole ≠ [] ∧ (whole.head? = some '0' → whole.length = 1))
  let (fraction, s) ← readFraction (s.dropWhile Char.isDigit)
  let (exponent, s) ← readExponent s
  return ({ negative, whole, fraction, exponent }, s)

def readNumber : List Char → Option (Number × List Char)
  | '-' :: rest => readUnsigned true rest
  | s => readUnsigned false s

/-! ## Values -/

def skipBlanks (s : List Char) : List Char :=
  s.dropWhile fun c => c == ' ' || c == '\n' || c == '\t' || c == '\r'

mutual

/-- A value and the text after it. Each call takes a unit of fuel; two for each character are
enough. -/
def readValue : (fuel : Nat) → List Char → Json × Option (List Char)
  | 0, _ => (broken, none)
  | fuel + 1, s =>
    match skipBlanks s with
    | 'n' :: 'u' :: 'l' :: 'l' :: rest => (null, some rest)
    | 't' :: 'r' :: 'u' :: 'e' :: rest => (boolean true, some rest)
    | 'f' :: 'a' :: 'l' :: 's' :: 'e' :: rest => (boolean false, some rest)
    | '"' :: rest =>
      match readString (some []) rest with
      | some (s, rest) => (text s, some rest)
      | none => (broken, none)
    | '[' :: rest =>
      match skipBlanks rest with
      | ']' :: rest => (list [], some rest)
      | rest => ((list (readItems fuel rest).1), (readItems fuel rest).2)
    | '\x7b' :: rest =>
      match skipBlanks rest with
      | '\x7d' :: rest => (object [], some rest)
      | rest => ((object (readMembers fuel rest).1), (readMembers fuel rest).2)
    | s =>
      match readNumber s with
      | some (n, rest) => (number n, some rest)
      | none => (broken, none)

/-- The items from here to the end of a list. -/
def readItems : (fuel : Nat) → List Char → List Json × Option (List Char)
  | 0, _ => ([broken], none)
  | fuel + 1, s =>
    match readValue fuel s with
    | (j, none) => ([j], none)
    | (j, some rest) =>
      match skipBlanks rest with
      | ']' :: rest => ([j], some rest)
      | ',' :: rest =>
        let (items, rest) := readItems fuel rest
        (j :: items, rest)
      | _ => ([j, broken], none)

/-- The members from here to the end of an object. -/
def readMembers : (fuel : Nat) → List Char → List (Option String × Json) × Option (List Char)
  | 0, _ => ([(none, broken)], none)
  | fuel + 1, s =>
    match skipBlanks s with
    | '"' :: rest =>
      match readString (some []) rest with
      | none => ([(none, broken)], none)
      | some (name, rest) =>
        match skipBlanks rest with
        | ':' :: rest =>
          match readValue fuel rest with
          | (j, none) => ([(name, j)], none)
          | (j, some rest) =>
            match skipBlanks rest with
            | '\x7d' :: rest => ([(name, j)], some rest)
            | ',' :: rest =>
              let (members, rest) := readMembers fuel rest
              ((name, j) :: members, rest)
            | _ => ([(name, j), (none, broken)], none)
        | _ => ([(name, broken)], none)
    | _ => ([(none, broken)], none)

end

/-- The value of a text, and whether nothing but blanks follows it. -/
def read (s : String) : Json × Bool :=
  let cs := s.toList
  match readValue (2 * cs.length + 2) cs with
  | (j, some rest) => (j, skipBlanks rest == [])
  | (j, none) => (j, false)

end SqlWorkload.Json
