import SqlWorkload.Text.Digits
/-!
# Universally unique identifiers

Numbers of 128 bits in hexadecimal digits. They are written in five groups with hyphens between
them, and read in that form, without hyphens, in braces or as a URN.
-/

namespace SqlWorkload

structure Uuid where
  value : BitVec 128
deriving DecidableEq, Repr

namespace Uuid

/-- The lengths of the groups. -/
def groups : List Nat := [8, 4, 4, 4, 12]

def digits (u : Uuid) : List Char :=
  (List.range 32).map fun i => Nat.digitChar ((u.value.toNat >>> (4 * (31 - i))) % 16)

/-- The digits cut into groups, with hyphens between them. -/
def group : List Nat → List Char → List Char
  | [], s => s
  | [n], s => s.take n
  | n :: rest, s => s.take n ++ '-' :: group rest (s.drop n)

def text (u : Uuid) : String := String.ofList (group groups u.digits)

/-- The text without the hyphens between the groups, if they are where they belong. -/
def ungroup? : List Nat → List Char → Option (List Char)
  | [], s => if s = [] then some [] else none
  | [n], s => if s.length = n then some s else none
  | n :: rest, s =>
    match s.drop n with
    | '-' :: s' => if n ≤ s.length then (ungroup? rest s').map (s.take n ++ ·) else none
    | _ => none

def ofDigits? (s : List Char) : Option Uuid := do
  if s.length ≠ 32 then none
  let value ← s.foldlM (fun n c => (Text.hexDigit? c).map (n * 16 + ·)) 0
  return ⟨.ofNat 128 value⟩

/-- What stands before the groups in a URN, in any case. -/
def urn : List Char := "urn:uuid:".toList

def ofText? (text : String) : Option Uuid :=
  let s := text.toList
  if s.length = 32 then ofDigits? s
  else if s.length = 36 then (ungroup? groups s).bind ofDigits?
  else if s.length = 38 then
    if s.head? = some '\x7b' ∧ s.getLast? = some '\x7d' then
      (ungroup? groups (s.drop 1).dropLast).bind ofDigits?
    else none
  else if (s.take urn.length).map Char.toLower = urn then (ungroup? groups (s.drop urn.length)).bind ofDigits?
  else none

end Uuid

end SqlWorkload
