import SqlWorkload.Text.CompositionTable
import SqlWorkload.Text.Lowercase
import SqlWorkload.Text.MarkTable
/-!
# Composed text

Texts in which a character and a mark behind it are written as one character where there is one.
Marks that do not touch each other may be written in any order; a composed text has them in the
order of their classes. The syllables of Hangul are composed of their letters by arithmetic.
-/

namespace SqlWorkload.Text

/-- The combining class of a mark; 0 for a character that marks combine with. -/
def combiningClass (c : Char) : Nat :=
  match combiningClassRanges.find? fun (first, last, _) => first ≤ c.toNat && c.toNat ≤ last with
  | some (_, _, k) => k
  | none => 0

def isNonspacingMark (c : Char) : Bool := inRanges nonspacingMarkRanges c

def isMark (c : Char) : Bool := isNonspacingMark c || inRanges spacingMarkRanges c

/-! ## Syllables -/

namespace Hangul

/-- How many letters can begin a syllable, be its vowel, and end it, with none counted as one. -/
def initials : Nat := 19

def vowels : Nat := 21

def finals : Nat := 28

/-- The letters and syllables by their places in the order of the script. -/
def initial (n : Nat) : Char := Char.ofNat (0x1100 + n)

def vowel (n : Nat) : Char := Char.ofNat (0x1161 + n)

def final (n : Nat) : Char := Char.ofNat (0x11A7 + n)

def syllable (n : Nat) : Char := Char.ofNat (0xAC00 + n)

/-- The place of a character among `count` characters from `first` on. -/
def place? (first : Char) (count : Nat) (c : Char) : Option Nat :=
  if first.toNat ≤ c.toNat ∧ c.toNat < first.toNat + count then some (c.toNat - first.toNat)
  else none

def syllable? (c : Char) : Option Nat := place? (syllable 0) (initials * vowels * finals) c

/-- The syllable of two letters, or of a syllable that is open and a letter. -/
def join? (a b : Char) : Option Char :=
  match place? (initial 0) initials a, place? (vowel 0) vowels b with
  | some i, some v => some (syllable ((i * vowels + v) * finals))
  | _, _ =>
    match syllable? a, place? (final 0) finals b with
    | some n, some f => if n % finals = 0 ∧ 0 < f then some (syllable (n + f)) else none
    | _, _ => none

/-- The syllable without the letter at its end, and that letter. -/
def split? (c : Char) : Option (Char × Char) := do
  let n ← syllable? c
  if n % finals = 0 then
    return (initial (n / finals / vowels), vowel (n / finals % vowels))
  else
    return (syllable (n - n % finals), final (n % finals))

end Hangul

/-! ## Pairs -/

/-- What `base` becomes by the pairs of a row. -/
def joinedIn (base : Char) : List Char → Option Char
  | a :: joined :: rest => if a = base then some joined else joinedIn base rest
  | _ => none

/-- What becomes `c` by the pairs of a row. -/
def baseIn (c : Char) : List Char → Option Char
  | a :: joined :: rest => if joined = c then some a else baseIn c rest
  | _ => none

/-- The one character that two characters become. -/
def join? (a b : Char) : Option Char :=
  Hangul.join? a b <|> compositionRows.findSome? fun (mark, pairs) =>
    if mark = b.toNat then joinedIn a pairs.toList else none

def split? (c : Char) : Option (Char × Char) :=
  Hangul.split? c <|> compositionRows.findSome? fun (mark, pairs) =>
    (baseIn c pairs.toList).map fun a => (a, Char.ofNat mark)

/-! ## Texts -/

/-- The characters that a character is composed of, if it is split at most `depth` times. -/
def apart : Nat → Char → List Char
  | 0, c => [c]
  | depth + 1, c =>
    match split? c with
    | some (a, b) => apart depth a ++ [b]
    | none => [c]

/-- No character has more than three marks. -/
def longestSplit : Nat := 3

/-- The text with a mark put before those at its front that do not have a lower class. -/
def insertMark (c : Char) : List Char → List Char
  | [] => [c]
  | d :: rest =>
    if 0 < combiningClass d ∧ combiningClass d < combiningClass c then d :: insertMark c rest
    else c :: d :: rest

/-- The text with the marks behind each character in the order of their classes. -/
def ordered (s : List Char) : List Char := s.foldr insertMark []

/-- The text that begins with `base` and the marks behind it that it could not take up, last first.
A mark is taken up over marks of lower classes only. -/
def composeAfter (base : Char) (left : List Char) : List Char → List Char
  | [] => base :: left.reverse
  | c :: rest =>
    let isFree := left.head?.all fun d => combiningClass d < combiningClass c
    match (if isFree then join? base c else none) with
    | some joined => composeAfter joined left rest
    | none =>
      if combiningClass c = 0 then base :: left.reverse ++ composeAfter c [] rest
      else composeAfter base (c :: left) rest

def compose (s : List Char) : List Char :=
  match ordered (s.flatMap (apart longestSplit)) with
  | [] => []
  | c :: rest => composeAfter c [] rest

end SqlWorkload.Text
