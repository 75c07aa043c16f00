import SqlWorkload.Text.Composed
import SqlWorkload.Text.DirectionTable
import SqlWorkload.Text.JoiningTable
import SqlWorkload.Text.Pieces
import SqlWorkload.Text.Punycode
import SqlWorkload.Url.DomainTable
import SqlWorkload.Url.FoldTable
/-!
# Domains

Names in labels with points between them, of letters and digits of any script. A domain is folded
first: capital, wide and other forms of a character become the plain one. A label that begins with
`xn--` stands for the text that the rest of it is the Punycode of. Some labels are refused: those
that begin with a mark, have an invisible joiner where nothing is joined, or mix the directions of
writing.
-/

namespace SqlWorkload.Domain

/-- The ASCII characters that no domain has. -/
def isForbidden (c : Char) : Bool :=
  c.toNat ≤ 0x20 ||
    ['#', '%', '/', ':', '<', '>', '?', '@', '[', '\\', ']', '^', '|', '\x7f'].contains c

/-! ## Folding -/

/-- The last row that begins at a number or before it. -/
def rowOf? {α : Type} (rows : List (Nat × α)) (n : Nat) : Option (Nat × α) :=
  (rows.takeWhile fun (first, _) => first ≤ n).getLast?

/-- What the tables have for a character. -/
def formOf? (c : Char) : Option (List Char) :=
  let letter? := do
    let (first, letters) ← rowOf? letterRows c.toNat
    return [← letters.toList[c.toNat - first]?]
  letter? <|> do
    let (first, words) ← rowOf? wordRows c.toNat
    return (← words[c.toNat - first]?).toList

/-- The capital letters of Cherokee, which stay as they are; the small ones become capital. -/
def isCherokee (c : Char) : Bool := 0x13A0 ≤ c.toNat && c.toNat ≤ 0x13F5

/-- What a character becomes in a domain, if it can be in one. -/
def foldChar? (c : Char) : Option (List Char) :=
  if Text.inRanges disallowedRanges c then none
  else if Text.inRanges ignoredRanges c then some []
  else some ((formOf? c).getD (if isCherokee c then [c] else Text.lowerChar c))

/-- The domain with every character in its plain form. -/
def fold? (s : List Char) : Option (List Char) :=
  (s.mapM foldChar?).map fun forms => Text.compose forms.flatten

/-! ## Punycode -/

/-- The greatest length of the Punycode of a label. -/
def longestCode : Nat := 2000

/-- Whether a label is one that Punycode is for: folded already, and not of ASCII alone. -/
def isFolded (label : List Char) : Bool :=
  label.any (0x80 ≤ ·.toNat) && label.all (fun c => foldChar? c == some [c]) &&
    Text.compose label == label

/-- The label that a label stands for. -/
def readLabel? : List Char → Option (List Char)
  | 'x' :: 'n' :: '-' :: '-' :: code =>
    if code.length ≤ longestCode then (Text.Punycode.decode code).filter isFolded else none
  | label => some label

/-! ## Joiners -/

/-- Whether a letter joins the one after it. -/
def joinsNext (c : Char) : Bool :=
  Text.inRanges Text.dualJoiningRanges c || Text.inRanges Text.leftJoiningRanges c

/-- Whether a letter joins the one before it. -/
def joinsPrevious (c : Char) : Bool :=
  Text.inRanges Text.dualJoiningRanges c || Text.inRanges Text.rightJoiningRanges c

/-- Whether letters join over a character: the marks and one modifier letter. -/
def isTransparent (c : Char) : Bool := Text.isNonspacingMark c || c.toNat == 0x1E94B

/-- Whether the next letter has a property, marks in front of it left out of account. -/
def meets (p : Char → Bool) (s : List Char) : Bool := (s.dropWhile isTransparent).head?.any p

/-- Whether a mark takes the vowel from a letter, so that a joiner can stand behind it. -/
def isVirama (c : Char) : Bool := Text.combiningClass c == 9

/-- Whether the joiners of a label stand where they have a meaning, `before` being the text in front
of it, last character first. The one that parts letters may stand between letters that join. -/
def joinersFit (before : List Char) : List Char → Bool
  | [] => true
  | c :: rest =>
    let fits :=
      if c = '\u200d' then before.head?.any isVirama
      else if c = '\u200c' then
        before.head?.any isVirama || (meets joinsNext before && meets joinsPrevious rest)
      else true
    fits && joinersFit (c :: before) rest

/-! ## Directions -/

inductive Direction where
  | leftToRight
  | rightToLeft
  | europeanNumber
  | arabicNumber
  | neutral
  /-- Of marks, which go with the character before them. -/
  | inherited
deriving DecidableEq, Repr

/-- Marks of Kannada, Zanabazar Square and Bhaiksuki that have a direction all the same. -/
def directedMarks : List Nat := [0xCBF, 0xCC6, 0x11A07, 0x11A08, 0x11C3F]

def Direction.ofChar (c : Char) : Direction :=
  if Text.isNonspacingMark c && !(directedMarks.contains c.toNat) then inherited
  else if Text.inRanges Text.rightToLeftRanges c then rightToLeft
  else if Text.inRanges Text.europeanNumberRanges c then europeanNumber
  else if Text.inRanges Text.arabicNumberRanges c then arabicNumber
  else if Text.inRanges Text.neutralRanges c then neutral
  else leftToRight

/-- Whether a label keeps to one direction: it begins with a letter, has no letter of the other
direction, and ends with a letter or a number, marks aside. From right to left it may have numbers
of one kind only. -/
def keepsDirection (label : List Char) : Bool :=
  let all := label.map Direction.ofChar
  let last := (all.reverse.dropWhile (· == .inherited)).head?
  match all.head? with
  | none => true
  | some .leftToRight =>
    !all.contains .rightToLeft && !all.contains .arabicNumber &&
      (last == some .leftToRight || last == some .europeanNumber)
  | some .rightToLeft =>
    !all.contains .leftToRight && !(all.contains .europeanNumber && all.contains .arabicNumber) &&
      last != some .neutral
  | _ => false

/-- Whether a domain has anything in it that is written from right to left. -/
def goesLeft (labels : List (List Char)) : Bool :=
  labels.any fun label => label.any fun c =>
    [.rightToLeft, .arabicNumber].contains (Direction.ofChar c)

/-! ## Texts -/

/-- The greatest length of a label that is not ASCII. -/
def longestLabel : Nat := 1000

def isLabel (label : List Char) : Bool :=
  !(label.head?.any Text.isMark) && !(label.any isForbidden) && joinersFit [] label &&
    (label.all (·.toNat < 0x80) || label.length ≤ longestLabel)

/-- The domain that a text stands for, folded and without Punycode. -/
def ofText? (s : List Char) : Option (List Char) := do
  let labels ← (Text.pieces (· == '.') (← fold? s)).mapM readLabel?
  if labels.all isLabel && (!goesLeft labels || labels.all keepsDirection) then
    return ['.'].intercalate labels
  else none

end SqlWorkload.Domain
