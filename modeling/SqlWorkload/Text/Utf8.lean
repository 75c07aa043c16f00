import SqlWorkload.Text.Digits
/-!
# UTF-8

Bytes read as UTF-8, part by part: the characters they encode, and between them whatever encodes
none. Bytes that begin a character and break off are one part, as long as they could be continued.
-/

namespace SqlWorkload.Text.Utf8

inductive Part where
  | char (c : Char)
  /-- So many bytes that cannot go on as a character. -/
  | fault (size : Nat)
  /-- Bytes that could, but for the end. -/
  | cut
deriving DecidableEq, Repr

/-- The bytes that may follow a first byte, each in a range of its own; none if a character cannot
begin with it. -/
def following (b : UInt8) : Option (List (UInt8 × UInt8)) :=
  let any := (0x80, 0xBF)
  if b < 0x80 then some []
  else if b < 0xC2 then none
  else if b < 0xE0 then some [any]
  else if b = 0xE0 then some [(0xA0, 0xBF), any]
  else if b = 0xED then some [(0x80, 0x9F), any]
  else if b < 0xF0 then some [any, any]
  else if b = 0xF0 then some [(0x90, 0xBF), any, any]
  else if b < 0xF4 then some [any, any, any]
  else if b = 0xF4 then some [(0x80, 0x8F), any, any]
  else none

/-- The bytes at the front that lie in the ranges, one after the other. -/
def within : List (UInt8 × UInt8) → List UInt8 → List UInt8
  | (first, last) :: ranges, b :: rest =>
    if first ≤ b ∧ b ≤ last then b :: within ranges rest else []
  | _, _ => []

/-- The code of a character: what the first byte has beside its mark, and six bits of each byte
that follows. -/
def code (b : UInt8) (tail : List UInt8) : Nat :=
  let first := b.toNat % (if tail = [] then 128 else 64 >>> tail.length)
  tail.foldl (fun n b => n * 64 + b.toNat % 64) first

def parts : List UInt8 → List Part
  | [] => []
  | b :: rest =>
    match following b with
    | none => .fault 1 :: parts rest
    | some ranges =>
      let tail := within ranges rest
      let part :=
        if tail.length = ranges.length then .char (Char.ofNat (code b tail))
        else if tail.length = rest.length then .cut
        else .fault (tail.length + 1)
      part :: parts (rest.drop tail.length)
termination_by bytes => bytes.length
decreasing_by
  · simp
  · simp only [List.length_drop, List.length_cons]; omega

/-- The text of some bytes, with a replacement character for each part that is none. -/
def lossy (bytes : List UInt8) : List Char :=
  (parts bytes).map fun
    | .char c => c
    | _ => '\ufffd'

/-- The first part that is no character, in words; `index` bytes stand before these parts. -/
def faultIn (index : Nat) : List Part → Option String
  | [] => none
  | .char c :: rest => faultIn (index + c.utf8Size) rest
  | .fault size :: _ =>
    some ("invalid utf-8 sequence of " ++ String.ofList (intText size) ++ " bytes from index " ++
      String.ofList (intText index))
  | .cut :: _ =>
    some ("incomplete utf-8 byte sequence from index " ++ String.ofList (intText index))

/-- What keeps some bytes from being a text. -/
def fault? (bytes : List UInt8) : Option String := faultIn 0 (parts bytes)

end SqlWorkload.Text.Utf8
