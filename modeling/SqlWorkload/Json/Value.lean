import SqlWorkload.Number.Shortest
import SqlWorkload.Text.Digits
/-!
# JSON values

A JSON text as a tree that keeps what a reader of documents needs: numbers as they are written,
object members in order and with repetitions, and the place where a text stops being JSON. There
the tree has a leaf `broken`; what was read before it stands before it, the containers still open
then end with it.
-/

namespace SqlWorkload

/-- A number as written: the digits of its three parts. -/
structure Json.Number where
  negative : Bool := false
  whole : List Char
  /-- The digits after the point, if there is a point. -/
  fraction : Option (List Char) := none
  exponent : Option Int := none
deriving DecidableEq, Repr

/-- The text of a string is missing where its escapes name half a surrogate pair. -/
inductive Json where
  | null
  | boolean (b : Bool)
  | number (n : Json.Number)
  | text (s : Option String)
  | list (items : List Json)
  | object (members : List (Option String × Json))
  | broken
deriving Inhabited

namespace Json

/-! ## Numbers -/

namespace Number

def ofInt (n : Int) : Number := { negative := n < 0, whole := Nat.toDigits 10 n.natAbs }

def isInteger (n : Number) : Bool := n.fraction.isNone && n.exponent.isNone

/-- The value of an integer of 64 bits, with or without sign; a negative zero is no integer. -/
def toInt? (n : Number) : Option Int :=
  let value := Text.digitsValue n.whole
  if !n.isInteger then none
  else if n.negative then
    if 0 < value ∧ value ≤ UInt64.size / 2 then some (-value) else none
  else if value < UInt64.size then some value else none

/-- The digits as far as they fit a 64-bit word, and the power of ten to multiply it by. A whole
digit that finds no room, and each after it, is a place more. A digit of the fraction takes a
place; from the first without room on they are left out. -/
def significand (n : Number) : Nat × Int :=
  let (word, places, _) := n.whole.foldl
    (fun (word, places, full) c =>
      let next := word * 10 + Text.digitsValue [c]
      if !full && next < UInt64.size then (next, places, false) else (word, places + 1, true))
    (0, (0 : Int), false)
  let (word, places, _) := (n.fraction.getD []).foldl
    (fun (word, places, full) c =>
      let next := word * 10 + Text.digitsValue [c]
      if !full && next < UInt64.size then (next, places - 1, false) else (word, places, true))
    (word, places, false)
  (word, places + n.exponent.getD 0)

def largestPower : Nat := 308

/-- The nearest number to the word, multiplied or divided by powers of ten, each step rounded; no
power is greater than the largest. Without a value where the product is out of range. -/
def scaled (word : Nat) (power : Int) : Option Binary64 :=
  let value := Binary64.ofNat word
  let ten (n : Nat) := Binary64.ofNat (Nat.pow 10 n)
  if 0 ≤ power then
    if word = 0 then some .zero
    else if power.toNat ≤ largestPower then
      let product := value.mul (ten power.toNat)
      if product.isFinite then some product else none
    else none
  else
    let places := (-power).toNat
    if places ≤ largestPower then some (value.div (ten places))
    else if places ≤ 2 * largestPower then
      some ((value.div (ten largestPower)).div (ten (places - largestPower)))
    else some .zero

def toBinary64? (n : Number) : Option Binary64 :=
  let (word, power) := n.significand
  (scaled word power).map fun p => if n.negative then p.neg else p

/-- The shortest decimal of a finite number. The point stands in its place or among zeros if it is
at most 16 digits behind the first one or less than 5 zeros before it; else it stands behind the
first digit and an exponent follows. -/
def ofBinary64 (p : Binary64) : Number :=
  let (n, e) := p.shortest
  let digits := Nat.toDigits 10 n
  let point := digits.length + e
  if 0 ≤ e ∧ point ≤ 16 then
    { negative := p.negative, whole := digits ++ List.replicate e.toNat '0'
      fraction := some ['0'] }
  else if 0 < point ∧ point ≤ 16 then
    { negative := p.negative, whole := digits.take point.toNat
      fraction := some (digits.drop point.toNat) }
  else if -5 < point ∧ point ≤ 0 then
    { negative := p.negative, whole := ['0']
      fraction := some (List.replicate (-point).toNat '0' ++ digits) }
  else
    { negative := p.negative, whole := digits.take 1
      fraction := if digits.length = 1 then none else some (digits.drop 1)
      exponent := some (point - 1) }

end Number

/-! ## Trees -/

def ofString (s : String) : Json := text (some s)

def ofInt (n : Int) : Json := number (.ofInt n)

def ofNat (n : Nat) : Json := ofInt n

/-- Numbers that are not finite have no text of their own. -/
def ofBinary64 (p : Binary64) : Json := if p.isFinite then number (.ofBinary64 p) else null

def ofOption {α : Type} (f : α → Json) : Option α → Json
  | none => null
  | some a => f a

def record (fields : List (String × Json)) : Json :=
  object (fields.map fun (name, value) => (some name, value))

mutual

/-- Whether the tree is that of a whole JSON value. -/
def intact : Json → Bool
  | broken => false
  | list items => intactItems items
  | object members => intactMembers members
  | _ => true

def intactItems : List Json → Bool
  | [] => true
  | j :: rest => j.intact && intactItems rest

def intactMembers : List (Option String × Json) → Bool
  | [] => true
  | (_, j) :: rest => j.intact && intactMembers rest

end

/-! ## Simple values -/

def string? : Json → Option String
  | text s => s
  | _ => none

def bool? : Json → Option Bool
  | boolean b => some b
  | _ => none

/-- An integer between `least` and `most`. -/
def int? (least most : Int) : Json → Option Int
  | number n => n.toInt?.bind fun i => if least ≤ i ∧ i ≤ most then some i else none
  | _ => none

/-- A natural number below `size`. -/
def nat? (size : Nat) (j : Json) : Option Nat := (j.int? 0 (size - 1)).map Int.toNat

/-- An integer of 32 bits, with a sign. -/
def int32? (j : Json) : Option Int := j.int? Int32.minValue.toInt Int32.maxValue.toInt

/-- An integer of 64 bits, with a sign. -/
def int64? (j : Json) : Option Int := j.int? Int64.minValue.toInt Int64.maxValue.toInt

def binary64? : Json → Option Binary64
  | number n => n.toBinary64?
  | _ => none

def items? : Json → Option (List Json)
  | list items => some items
  | _ => none

/-- A list whose items all have a value. -/
def listOf? {α : Type} (f : Json → Option α) (j : Json) : Option (List α) :=
  j.items?.bind fun items => items.mapM f

/-- The value of an alternative without content: its name, alone or with a null. -/
def tag? : Json → Option String
  | text s => s
  | object [(name, null)] => name
  | _ => none

/-- The name and content of an alternative. -/
def variant? : Json → Option (String × Json)
  | object [(some name, j)] => some (name, j)
  | _ => none

/-- The value of an optional field, which may be left out or null. -/
def optional? {α : Type} (f : Json → Option α) : Option Json → Option (Option α)
  | none | some null => some none
  | some j => (f j).map some

end Json

end SqlWorkload
