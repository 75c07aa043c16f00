import SqlWorkload.Text.Utf8
/-!
# Percent signs

Texts in which a percent sign and two hexadecimal digits stand for a byte; every other character
stands for its own bytes, also a percent sign that no two digits follow.
-/

namespace SqlWorkload.Text.Percent

def decode : List Char → List UInt8
  | '%' :: a :: b :: rest =>
    match hexDigit? a, hexDigit? b with
    | some high, some low => UInt8.ofNat (16 * high + low) :: decode rest
    | _, _ => 0x25 :: decode (a :: b :: rest)
  | c :: rest => String.utf8EncodeChar c ++ decode rest
  | [] => []

/-- The text of a name or value in a query, where a plus sign stands for a blank. -/
def decodeForm (s : List Char) : String :=
  String.ofList (Utf8.lossy (decode (s.map fun c => if c = '+' then ' ' else c)))

end SqlWorkload.Text.Percent
