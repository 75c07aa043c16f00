import SqlWorkload.Text.Lowercase
import SqlWorkload.Text.UnseenTable
/-!
# Escaped text

A text between quote marks as error reports show it: marks and backslashes, line ends and tabs are
written with a backslash, and characters that cannot be seen by themselves as their numbers.
-/

namespace SqlWorkload.Text

def isUnseen (c : Char) : Bool := inRanges unseenRanges c

def escapeChar (c : Char) : List Char :=
  match c with
  | '"' => ['\\', '"']
  | '\\' => ['\\', '\\']
  | '\n' => ['\\', 'n']
  | '\r' => ['\\', 'r']
  | '\t' => ['\\', 't']
  | '\x00' => ['\\', '0']
  | c =>
    if isUnseen c then '\\' :: 'u' :: '\x7b' :: Nat.toDigits 16 c.toNat ++ ['\x7d'] else [c]

/-- The text between quote marks, with everything escaped that has to be. -/
def escaped (s : String) : String :=
  "\"" ++ String.ofList (s.toList.flatMap escapeChar) ++ "\""

end SqlWorkload.Text
