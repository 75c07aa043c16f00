import SqlWorkload.Json.Value
/-!
# Writing JSON

Trees to JSON text on one line, without blanks. In a string only what has to be is escaped, and with
it the characters beyond ASCII that end a line.
-/

namespace SqlWorkload.Json

def hexDigit (n : Nat) : Char := Char.ofNat (if n < 10 then 0x30 + n else 0x57 + n)

/-- The code of a character in four hexadecimal digits. -/
def codeEscape (c : Char) : List Char :=
  '\\' :: 'u' :: [12, 8, 4, 0].map fun k => hexDigit ((c.toNat >>> k) % 16)

/-- Line ends beyond ASCII: the next-line character and the two separators. -/
def isLineEnd (c : Char) : Bool := c == '\u0085' || c == '\u2028' || c == '\u2029'

def escape (c : Char) : List Char :=
  match c with
  | '"' => ['\\', '"']
  | '\\' => ['\\', '\\']
  | '\n' => ['\\', 'n']
  | '\r' => ['\\', 'r']
  | '\t' => ['\\', 't']
  | c => if c.toNat < 0x20 || isLineEnd c then codeEscape c else [c]

def printString (s : String) : String :=
  "\"" ++ String.ofList (s.toList.flatMap escape) ++ "\""

def printNumber (n : Number) : String :=
  (if n.negative then "-" else "") ++ String.ofList n.whole ++
    (match n.fraction with
      | some digits => "." ++ String.ofList digits
      | none => "") ++
    (match n.exponent with
      | some e => "e" ++ String.ofList (Text.intText e)
      | none => "")

mutual

/-- The text of a tree. Half a surrogate pair and what is broken have none, and a null stands in
for them. -/
def print : Json → String
  | null | broken | text none => "null"
  | boolean true => "true"
  | boolean false => "false"
  | number n => printNumber n
  | text (some s) => printString s
  | list items => "[" ++ printItems true items ++ "]"
  | object members => "\x7b" ++ printMembers true members ++ "\x7d"

def printItems (first : Bool) : List Json → String
  | [] => ""
  | j :: rest => (if first then "" else ",") ++ j.print ++ printItems false rest

def printMembers (first : Bool) : List (Option String × Json) → String
  | [] => ""
  | (name, j) :: rest =>
    (if first then "" else ",") ++ printString (name.getD "") ++ ":" ++ j.print ++
      printMembers false rest

end

end SqlWorkload.Json
